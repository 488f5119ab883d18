import Mathlib.Logic.Function.Basic
import TruenasCsi.Status
import TruenasCsi.Support.Steps

/-! The circuit breaker of a connection. -/

namespace TruenasCsi.Truenas

/-- Counts failures, opens at a threshold, and admits one probe after a time. -/
structure Breaker where
  threshold : Int
  resetAfter : Int
  failures : Nat := 0
  isOpen : Bool := false
  openedAt : Int := 0
  probing : Bool := false
deriving DecidableEq

/-- Why a breaker refuses a call. -/
inductive Refusal where
  | timer (left : Int)
  | probeInFlight
deriving DecidableEq

namespace Breaker

/-- The breaker of a backend, or the defaults. -/
def breakerFor (threshold reset : Int) : Breaker where
  threshold := if threshold = 0 then 10 else threshold
  resetAfter := if reset ≤ 0 then 10000000000 else reset

variable (b : Breaker) (now : Int)

def enabled : Bool := b.threshold > 0

def left : Int := b.resetAfter - (now - b.openedAt)

def allow : Except Refusal Breaker :=
  if b.enabled = false then .ok b
  else if b.isOpen = false then .ok b
  else if 0 < b.left now then .error (.timer (b.left now))
  else if b.probing then .error .probeInFlight
  else .ok { b with probing := true }

theorem allow_cases {b t : Breaker} {now : Int} (allowed : b.allow now = .ok t) :
    t = b ∧ (b.enabled = false ∨ b.isOpen = false) ∨
      t = { b with probing := true } ∧ b.left now ≤ 0 ∧ b.probing = false := by
  unfold allow at allowed
  split_ifs at allowed with off closed running probe
  · exact .inl ⟨(Except.ok.inj allowed).symm, .inl off⟩
  · exact .inl ⟨(Except.ok.inj allowed).symm, .inr closed⟩
  · exact .inr ⟨(Except.ok.inj allowed).symm, not_lt.mp running, by simpa using probe⟩

def success : Breaker :=
  if b.enabled = false then b else { b with failures := 0, isOpen := false, probing := false }

def failure : Breaker :=
  if b.enabled = false then b
  else if b.probing then { b with probing := false, openedAt := now }
  else if b.isOpen = false ∧ b.threshold ≤ (b.failures + 1 : Nat) then
    { b with failures := b.failures + 1, isOpen := true, openedAt := now }
  else { b with failures := b.failures + 1 }

def abandon : Breaker := if b.enabled = false then b else { b with probing := false }

def reset : Breaker := { b with failures := 0, isOpen := false, probing := false }

end Breaker

/-- How an attempt ends. -/
inductive Ending where
  | result
  | applicationError (e : CallError)
  | tooManyConcurrent
  /-- The caller's context ended. -/
  | contextEnded
  | loginRejected
  | connClosed
  | timedOut
  /-- No dial, or a closed client. -/
  | unreachable
deriving DecidableEq

namespace Ending

def err (method : String) : Ending → Option Err
  | result => none
  | applicationError e => some (.call method e.errName e.reason)
  | tooManyConcurrent => some (.sentinel .tooManyConcurrent
      ("truenas rejected the call: too many concurrent calls (" ++ method ++ ")"))
  | contextEnded => some (.sentinel .contextEnded "context ended")
  | loginRejected => some (.sentinel .authFailed "truenas authentication rejected")
  | connClosed => some (.sentinel .connClosed ("truenas connection closed during " ++ method))
  | timedOut => some (.plain (method ++ ": timed out after 2m0s"))
  | unreachable => some (.plain "dial")

def answered : Ending → Bool
  | result => true
  | applicationError _ => true
  | _ => false

/-- The attempt says nothing about the appliance. -/
def silent : Ending → Bool
  | contextEnded => true
  | loginRejected => true
  | _ => false

end Ending

/-- Whether an error means bad health. -/
def countsAsFailure : Option Err → Bool
  | none => false
  | some e =>
    if e.isA .contextEnded then false
    else if e.isA .authFailed || e.isA .circuitOpen then false
    else e.cause.isNone

structure Attempt where
  method : String
  number : Nat
  /-- Past the rate limiter. -/
  running : Bool
  /-- The breaker was open when the attempt began. -/
  begunOpen : Bool
  /-- The breaker was open and its timer ran. -/
  early : Bool
deriving DecidableEq

/-- One connection: breaker and calls. -/
structure Line where
  breaker : Breaker
  calls : Nat → Option Attempt := fun _ => none

inductive Event where
  | call (id : Nat) (method : String) (now : Int)
  /-- The rate limiter lets an attempt go on. -/
  | admitted (id : Nat)
  /-- The context ended at the rate limiter. -/
  | limiterEnded (id : Nat)
  | ended (id : Nat) (ending : Ending) (now : Int) (contextEnded : Bool)
  /-- A rotated credential resets the breaker. -/
  | rotated
deriving DecidableEq

namespace Line

variable (s : Line) (b : Breaker) (method : String) (id : Nat)

def begin (number : Nat) (now : Int) : Attempt where
  method := method
  number := number
  running := false
  begunOpen := b.isOpen
  early := b.isOpen && 0 < b.left now

def set (a : Option Attempt) : Line :=
  ⟨b, Function.update s.calls id a⟩

@[simp] theorem set_calls (j : Nat) (a : Option Attempt) :
    (s.set b id a).calls j = if j = id then a else s.calls j :=
  Function.update_apply ..

def reported (ending : Ending) (now : Int) : Breaker :=
  if countsAsFailure (ending.err method) then b.failure now else b.success

/-- A second attempt needs a dropped connection. -/
def retries (a : Attempt) (ending : Ending) (contextEnded : Bool) : Bool :=
  ending == .connClosed && !contextEnded && a.number == 0

def step : Event → Option Line
  | .call id method now =>
    if (s.calls id).isSome then none
    else
      match s.breaker.allow now with
      | .error _ => some s
      | .ok b => some (s.set b id (some (begin s.breaker method 0 now)))
  | .admitted id =>
    match s.calls id with
    | some a => if a.running then none else some (s.set s.breaker id (some { a with running := true }))
    | none => none
  | .limiterEnded id =>
    match s.calls id with
    | some a => if a.running then none else some (s.set s.breaker.abandon id none)
    | none => none
  | .ended id ending now contextEnded =>
    match s.calls id with
    | some a =>
      if a.running then
        let b := reported s.breaker a.method ending now
        some (s.set b id
          (if retries a ending contextEnded then some (begin b a.method 1 now) else none))
      else none
    | none => none
  | .rotated => some { s with breaker := s.breaker.reset }

theorem step_cases {s t : Line} {e : Event} (taken : s.step e = some t) :
    match e with
    | .call id method now => s.calls id = none ∧ (t = s ∨ ∃ b, s.breaker.allow now = .ok b ∧
        t = s.set b id (some (begin s.breaker method 0 now)))
    | .admitted id => ∃ a, s.calls id = some a ∧
        t = s.set s.breaker id (some { a with running := true })
    | .limiterEnded id => ∃ a, s.calls id = some a ∧ t = s.set s.breaker.abandon id none
    | .ended id ending now contextEnded => ∃ a, s.calls id = some a ∧
        t = s.set (reported s.breaker a.method ending now) id
          (if retries a ending contextEnded then
            some (begin (reported s.breaker a.method ending now) a.method 1 now) else none)
    | .rotated => t = { s with breaker := s.breaker.reset } := by
  cases e with
  | call id method now =>
    simp only [step] at taken
    split at taken
    · cases taken
    · rename_i idle
      refine ⟨by simpa using idle, ?_⟩
      split at taken
      · exact .inl (Option.some.inj taken).symm
      · rename_i b allowed
        exact .inr ⟨b, allowed, (Option.some.inj taken).symm⟩
  | admitted id =>
    simp only [step] at taken
    split at taken
    · rename_i a progress
      split at taken
      · cases taken
      · exact ⟨a, progress, (Option.some.inj taken).symm⟩
    · cases taken
  | limiterEnded id =>
    simp only [step] at taken
    split at taken
    · rename_i a progress
      split at taken
      · cases taken
      · exact ⟨a, progress, (Option.some.inj taken).symm⟩
    · cases taken
  | ended id ending now contextEnded =>
    simp only [step] at taken
    split at taken
    · rename_i a progress
      split at taken
      · exact ⟨a, progress, (Option.some.inj taken).symm⟩
      · cases taken
    · cases taken
  | rotated => exact (Option.some.inj taken).symm

end Line

/-- The breaker closes or its count is reset. -/
def Relents (b t : Breaker) : Prop :=
  b.isOpen = true ∧ t.isOpen = false ∨ b.failures ≠ 0 ∧ t.failures = 0

instance (b t : Breaker) : Decidable (Relents b t) := inferInstanceAs (Decidable (_ ∨ _))

/-- An answer, or a rotated credential. -/
def Event.proof : Event → Bool
  | .ended _ ending _ _ => ending.answered
  | .rotated => true
  | _ => false

/-- Attempts that say nothing end on idle breakers. -/
def Telling (s : Line) : Event → Prop
  | .ended _ ending _ _ => ending.silent = true → s.breaker.enabled = true →
      s.breaker.isOpen = false ∧ s.breaker.failures = 0
  | _ => True

theorem countsAsFailure_err (method : String) (ending : Ending) :
    countsAsFailure (ending.err method) = !(ending.answered || ending.silent) := by
  cases ending <;> rfl

theorem relents_success {b : Breaker} : Relents b b.success ↔
    b.enabled = true ∧ ¬(b.isOpen = false ∧ b.failures = 0) := by
  unfold Relents Breaker.success
  cases b.enabled with
  | false => simp
  | true => cases opened : b.isOpen <;> simp

theorem not_relents_failure (b : Breaker) (now : Int) : ¬Relents b (b.failure now) := by
  unfold Relents Breaker.failure
  split_ifs with off probe trips <;> simp

/-- For every run: the breaker closes or forgets failures only on an answer or a rotated credential, exactly
if every attempt that says nothing ends on a closed breaker without failures. -/
theorem relents_only_on_proof_iff (s : Line) (es : List Event) :
    (∀ x ∈ Steps.steps Line.step s es, Relents x.1.breaker x.2.2.breaker → x.2.1.proof = true) ↔
    ∀ x ∈ Steps.steps Line.step s es, Telling x.1 x.2.1 := by
  refine Steps.forall_steps_iff (fun s e t taken => ?_) s es
  have did := Line.step_cases taken
  dsimp only
  cases e with
  | call id method now =>
    have kept : ¬Relents s.breaker t.breaker := by
      obtain ⟨-, rfl | ⟨b, allowed, rfl⟩⟩ := did
      · simp [Relents]
      · obtain ⟨rfl, -⟩ | ⟨rfl, -⟩ := Breaker.allow_cases allowed <;> simp [Relents, Line.set]
    simp [kept, Telling]
  | admitted id =>
    obtain ⟨a, -, rfl⟩ := did
    simp [Relents, Line.set, Telling]
  | limiterEnded id =>
    obtain ⟨a, -, rfl⟩ := did
    have kept : ¬Relents s.breaker s.breaker.abandon := by
      unfold Relents Breaker.abandon
      split_ifs <;> simp
    simp [Line.set, kept, Telling]
  | ended id ending now contextEnded =>
    obtain ⟨a, -, rfl⟩ := did
    simp only [Line.set, Line.reported, countsAsFailure_err, Event.proof, Telling]
    -- An answer proves life and a failure relents nothing; a silent ending is left.
    cases answered : ending.answered with
    | true =>
      have told : ending.silent = false := by
        cases ending <;> simp_all [Ending.answered, Ending.silent]
      simp [told]
    | false =>
      cases silent : ending.silent with
      | true => simp [relents_success]
      | false => simp [not_relents_failure]
  | rotated => simp [Event.proof, Telling]

def oneStrike : Line := { breaker := Breaker.breakerFor 1 0 }

/-- The probe is given up by its caller. -/
theorem closed_by_cancellation : ∃ x ∈ Steps.steps Line.step oneStrike
    [.call 1 "pool.query" 0, .admitted 1, .ended 1 .timedOut 1 false,
      .call 2 "pool.query" 20000000000, .admitted 2, .ended 2 .contextEnded 20000000001 true],
    Relents x.1.breaker x.2.2.breaker ∧ x.2.1.proof = false := by
  decide

/-- While the timer runs nothing is written. -/
structure Restrained (s : Line) : Prop where
  late : ∀ id a, s.calls id = some a → a.running = true → a.early = false
  single : ∀ i j a b, s.calls i = some a → s.calls j = some b → a.begunOpen = true →
    b.begunOpen = true → i = j

/-- Retries and reports do not disturb a probe. -/
def Undisturbed (s : Line) : Event → Prop
  | .ended id ending _ contextEnded =>
    (∀ j a, s.calls j = some a → a.begunOpen = true → j = id) ∧
      ∀ a, s.calls id = some a → Line.retries a ending contextEnded = true →
        s.breaker.isOpen = false ∧ (s.breaker.failures + 1 : Nat) < s.breaker.threshold
  | .limiterEnded id => ∀ j a, s.calls j = some a → a.begunOpen = true → j = id
  | .rotated => ∀ j a, s.calls j = some a → a.begunOpen = false
  | _ => True

/-- An attempt begun on an open breaker is its probe. -/
structure Probed (s : Line) : Prop where
  armed : s.breaker.isOpen = true → s.breaker.enabled = true
  late : ∀ id a, s.calls id = some a → a.early = false
  held : ∀ id a, s.calls id = some a → a.begunOpen = true →
    s.breaker.isOpen = true ∧ s.breaker.probing = true
  single : ∀ i j a b, s.calls i = some a → s.calls j = some b → a.begunOpen = true →
    b.begunOpen = true → i = j

namespace Probed

variable {s t : Line} {b : Breaker} {id : Nat}

theorem still_armed (probed : Probed s) (same : b.enabled = s.breaker.enabled)
    (idle : s.breaker.enabled = false → b = s.breaker) (opened : b.isOpen = true) :
    b.enabled = true := by
  rw [same]
  by_contra off
  rw [Bool.not_eq_true] at off
  rw [idle off] at opened
  simp [probed.armed opened] at off

theorem set (probed : Probed s) (next : Option Attempt) (armed : b.isOpen = true → b.enabled = true)
    (only : ∀ j a, s.calls j = some a → a.begunOpen = true → j = id)
    (plain : ∀ a, next = some a → a.early = false ∧ a.begunOpen = false) : Probed (s.set b id next) := by
  have none_open (j : Nat) (a : Attempt) (progress : (s.set b id next).calls j = some a) :
      a.begunOpen = false := by
    rw [Line.set_calls] at progress
    split_ifs at progress with here
    · exact (plain a progress).2
    · exact Bool.eq_false_iff.mpr fun begun => here (only j a progress begun)
  refine ⟨armed, fun j a progress => ?_, fun j a progress begun => ?_,
    fun i j a c progress _ begun _ => ?_⟩
  · rw [Line.set_calls] at progress
    split_ifs at progress
    · exact (plain a progress).1
    · exact probed.late j a progress
  · exact absurd begun (by simp [none_open j a progress])
  · exact absurd begun (by simp [none_open i a progress])

theorem call (probed : Probed s) {method : String} {now : Int}
    (allowed : s.breaker.allow now = .ok b) :
    Probed (s.set b id (some (Line.begin s.breaker method 0 now))) := by
  obtain ⟨rfl, quiet⟩ | ⟨rfl, expired, free⟩ := Breaker.allow_cases allowed
  · have closed : s.breaker.isOpen = false := by
      rcases quiet with off | closed
      · exact Bool.eq_false_iff.mpr fun opened => by simp [probed.armed opened] at off
      · exact closed
    apply probed.set _ probed.armed
    · intro j a progress begun
      simp [(probed.held j a progress begun).1] at closed
    · rintro a ⟨⟩
      simp [Line.begin, closed]
  · have nobody (j : Nat) (a : Attempt) (progress : s.calls j = some a) : a.begunOpen = false :=
      Bool.eq_false_iff.mpr fun begun => by simp [(probed.held j a progress begun).2] at free
    refine ⟨probed.armed, fun j a progress => ?_, fun j a progress begun => ?_,
      fun i j a c first second begun begun' => ?_⟩
    · rw [Line.set_calls] at progress
      split_ifs at progress
      · obtain rfl := Option.some.inj progress
        simp [Line.begin, not_lt.mpr expired]
      · exact probed.late j a progress
    · rw [Line.set_calls] at progress
      split_ifs at progress with here
      · obtain rfl := Option.some.inj progress
        exact ⟨begun, rfl⟩
      · simp [nobody j a progress] at begun
    · rw [Line.set_calls] at first second
      split_ifs at first second with here there
      · rw [here, there]
      · simp [nobody j c second] at begun'
      · simp [nobody i a first] at begun
      · simp [nobody i a first] at begun

theorem step (probed : Probed s) {e : Event} (allowed : Undisturbed s e)
    (taken : s.step e = some t) : Probed t := by
  have did := Line.step_cases taken
  cases e with
  | call id method now =>
    obtain ⟨-, rfl | ⟨b, passed, rfl⟩⟩ := did
    · exact probed
    · exact probed.call passed
  | admitted id =>
    obtain ⟨a, progress, rfl⟩ := did
    have same (j : Nat) (c : Attempt) (there : (s.set s.breaker id (some { a with running := true })).calls
        j = some c) : ∃ c', s.calls j = some c' ∧ c'.begunOpen = c.begunOpen ∧ c'.early = c.early := by
      rw [Line.set_calls] at there
      split_ifs at there with here
      · obtain rfl := Option.some.inj there
        exact ⟨a, here ▸ progress, rfl, rfl⟩
      · exact ⟨c, there, rfl, rfl⟩
    refine ⟨probed.armed, fun j c there => ?_, fun j c there begun => ?_,
      fun i j c d first second begun begun' => ?_⟩
    · obtain ⟨c', old, -, early⟩ := same j c there
      exact early ▸ probed.late j c' old
    · obtain ⟨c', old, opened, -⟩ := same j c there
      exact probed.held j c' old (opened.trans begun)
    · obtain ⟨c', old, opened, -⟩ := same i c first
      obtain ⟨d', old', opened', -⟩ := same j d second
      exact probed.single i j c' d' old old' (opened.trans begun) (opened'.trans begun')
  | limiterEnded id =>
    -- An abandoned call was the probe, or there was none.
    obtain ⟨a, -, rfl⟩ := did
    apply probed.set none _ allowed
    · simp
    · refine probed.still_armed ?_ fun off => by simp [Breaker.abandon, off]
      unfold Breaker.abandon
      split_ifs <;> rfl
  | ended id ending now contextEnded =>
    obtain ⟨a, progress, rfl⟩ := did
    apply probed.set _ _ allowed.1
    · intro c retried
      split_ifs at retried with again
      obtain rfl := Option.some.inj retried
      obtain ⟨closed, room⟩ := allowed.2 a progress again
      -- A retry starts on a closed breaker: the report before it did not reach the threshold.
      have still : (Line.reported s.breaker a.method ending now).isOpen = false := by
        unfold Line.reported Breaker.failure Breaker.success
        split_ifs with _ _ _ trips
        · exact closed
        · exact closed
        · exact absurd trips.2 (not_le.mpr room)
        · exact closed
        · exact closed
        · rfl
      simp [Line.begin, still]
    · refine probed.still_armed ?_ fun off => by
        simp [Line.reported, Breaker.failure, Breaker.success, off]
      unfold Line.reported Breaker.failure Breaker.success
      split_ifs <;> rfl
  | rotated =>
    rw [show t = { s with breaker := s.breaker.reset } from did]
    refine ⟨nofun, probed.late, fun j a progress begun => ?_, probed.single⟩
    simp [allowed j a progress] at begun

end Probed

/-- From an idle line with a closed breaker, in every run whose retries and reports do not disturb a probe:
while the breaker is open nothing is written before its time, and at most one call is under way as a probe. -/
theorem open_breaker_admits_one_probe {s t : Line} (closed : s.breaker.isOpen = false)
    (idle : ∀ id, s.calls id = none) (reaches : Steps.Reaches Line.step Undisturbed s t) :
    Restrained t := by
  have first : Probed s := ⟨fun opened => by simp [closed] at opened,
    fun id a progress => by simp [idle] at progress, fun id a progress => by simp [idle] at progress,
    fun i j a b progress => by simp [idle] at progress⟩
  have probed := reaches.invariant first fun _ _ _ probed allowed taken => probed.step allowed taken
  exact ⟨fun id a progress _ => probed.late id a progress, probed.single⟩

/-- The appliance hangs, and a probe is on its way. -/
theorem one_probe_after_timeout : ∃ t : Line, Restrained t ∧
    (t.calls 2).map (fun a => (a.running, a.begunOpen)) = some (true, true) := by
  have called : Steps.Reaches Line.step Undisturbed oneStrike _ :=
    .tail .refl ⟨Event.call 1 "pool.query" 0, trivial, rfl⟩
  have running := called.tail ⟨Event.admitted 1, trivial, rfl⟩
  have hung := running.tail ⟨Event.ended 1 .timedOut 1 false, ⟨fun j a progress _ => by
    by_contra other
    simp [other, oneStrike] at progress, nofun⟩, rfl⟩
  have probed := hung.tail ⟨Event.call 2 "pool.query" 20000000000, trivial, rfl⟩
  have reaches := probed.tail ⟨Event.admitted 2, trivial, rfl⟩
  exact ⟨_, open_breaker_admits_one_probe (s := oneStrike) rfl (fun _ => rfl) reaches, rfl⟩

/-- A call is tried again on an open breaker. -/
theorem open_breaker_bypassed : ¬∀ s t : Line, s.breaker.isOpen = false → (∀ id, s.calls id = none) →
    Steps.Reaches Line.step (fun _ _ => True) s t → Restrained t := by
  intro claim
  let retried := Steps.replay Line.step (fun _ _ => True) oneStrike
    [.call 1 "pool.query" 0, .admitted 1, .ended 1 .connClosed 1 false, .admitted 1]
  have early : retried.map (fun t => (t.calls 1).map fun a => (a.running, a.early)) =
      some (some (true, true)) := by decide
  obtain ⟨t, ran, there⟩ := Option.map_eq_some_iff.mp early
  obtain ⟨a, progress, begun⟩ := Option.map_eq_some_iff.mp there
  obtain ⟨running, soon⟩ := Prod.mk.inj begun
  have late := (claim oneStrike t rfl (fun _ => rfl) (.of_replay ran)).late 1 a progress running
  simp [soon] at late

end TruenasCsi.Truenas
