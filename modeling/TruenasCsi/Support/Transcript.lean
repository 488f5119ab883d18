import TruenasCsi.Support.Prog

/-! A transcript pairs each call a program made with the answer it got. -/

namespace Prog

variable {C : Type} {R : C → Type} {E α β : Type}

/-- One call and its answer. -/
structure Exchange (C : Type) (R : C → Type) (E : Type) where
  call : C
  answer : Except E (R call)

/-- A possible conversation, with its result. -/
def Transcript : Prog C R E α → List (Exchange C R E) → Except E α → Prop
  | .ret a, log, r => log = [] ∧ r = .ok a
  | .fail e, log, r => log = [] ∧ r = .error e
  | .call c k, log, r => ∃ answer rest, log = ⟨c, answer⟩ :: rest ∧ (k answer).Transcript rest r

variable {log : List (Exchange C R E)} {r : Except E α} {p : Prog C R E α}

@[simp] theorem transcript_ret {a : α} :
    (Prog.ret a : Prog C R E α).Transcript log r ↔ log = [] ∧ r = .ok a := Iff.rfl

@[simp] theorem transcript_fail {e : E} :
    (Prog.fail e : Prog C R E α).Transcript log r ↔ log = [] ∧ r = .error e := Iff.rfl

/-- A transcript splits where the first part ended. -/
theorem transcript_bind {f : α → Prog C R E β} {r : Except E β} :
    (p >>= f).Transcript log r ↔
      (∃ e, p.Transcript log (.error e) ∧ r = .error e) ∨
        ∃ a front back, log = front ++ back ∧ p.Transcript front (.ok a) ∧
          (f a).Transcript back r := by
  induction p generalizing log with
  | ret a => simp
  | fail e => simp
  | call c k ih =>
    rw [call_bind]
    constructor
    · rintro ⟨answer, rest, rfl, said⟩
      rcases (ih answer).mp said with ⟨e, failed, rfl⟩ | ⟨a, front, back, rfl, ended, next⟩
      · exact .inl ⟨e, ⟨answer, rest, rfl, failed⟩, rfl⟩
      · exact .inr ⟨a, ⟨c, answer⟩ :: front, back, rfl, ⟨answer, front, rfl, ended⟩, next⟩
    · rintro (⟨e, ⟨answer, rest, rfl, failed⟩, rfl⟩ |
        ⟨a, front, back, rfl, ⟨answer, rest, rfl, ended⟩, next⟩)
      · exact ⟨answer, rest, rfl, (ih answer).mpr (.inl ⟨e, failed, rfl⟩)⟩
      · exact ⟨answer, rest ++ back, rfl, (ih answer).mpr (.inr ⟨a, rest, back, rfl, ended, next⟩)⟩

theorem transcript_attempt {r : Except E (Except E α)} :
    p.attempt.Transcript log r ↔ ∃ result, p.Transcript log result ∧ r = .ok result := by
  induction p generalizing log with
  | ret a => simp [attempt]
  | fail e => simp [attempt]
  | call c k ih =>
    constructor
    · rintro ⟨answer, rest, rfl, said⟩
      obtain ⟨result, ended, rfl⟩ := (ih answer).mp said
      exact ⟨result, ⟨answer, rest, rfl, ended⟩, rfl⟩
    · rintro ⟨result, ⟨answer, rest, rfl, ended⟩, rfl⟩
      exact ⟨answer, rest, rfl, (ih answer).mpr ⟨result, ended, rfl⟩⟩

@[simp] theorem transcript_ofExcept {result : Except E α} :
    (ofExcept result : Prog C R E α).Transcript log r ↔ log = [] ∧ r = result := by
  cases result <;> rfl

theorem transcript_issue {c : C} {r : Except E (R c)} :
    (issue c : Prog C R E (R c)).Transcript log r ↔ log = [⟨c, r⟩] := by
  constructor
  · rintro ⟨answer, rest, rfl, said⟩
    obtain ⟨rfl, rfl⟩ := transcript_ofExcept.mp said
    rfl
  · rintro rfl
    exact ⟨r, [], rfl, transcript_ofExcept.mpr ⟨rfl, rfl⟩⟩

theorem transcript_mapError {f : E → E} :
    (p.mapError f).Transcript log r ↔ ∃ result, p.Transcript log result ∧ r = result.mapError f := by
  unfold mapError
  rw [transcript_bind]
  constructor
  · rintro (⟨e, failed, rfl⟩ | ⟨result, front, back, rfl, said, ended⟩)
    · obtain ⟨result, -, absurd⟩ := transcript_attempt.mp failed
      cases absurd
    · obtain ⟨result', ended', same⟩ := transcript_attempt.mp said
      cases same
      obtain ⟨rfl, rfl⟩ := transcript_ofExcept.mp ended
      exact ⟨result, by simpa using ended', rfl⟩
  · rintro ⟨result, said, rfl⟩
    refine .inr ⟨result, log, [], by simp, transcript_attempt.mpr ⟨result, said, rfl⟩, ?_⟩
    exact transcript_ofExcept.mpr ⟨rfl, rfl⟩

/-- What a program emits is all its transcripts contain. -/
theorem Emits.transcript {P : C → Prop}
    (emits : p.Emits (fun _ _ => True) P) (said : p.Transcript log r) : ∀ e ∈ log, P e.call := by
  induction p generalizing log with
  | ret a =>
    obtain ⟨rfl, -⟩ := said
    nofun
  | fail e =>
    obtain ⟨rfl, -⟩ := said
    nofun
  | call c k ih =>
    obtain ⟨answer, rest, rfl, said⟩ := said
    intro e mem
    rcases List.mem_cons.mp mem with rfl | later
    · exact emits.1
    · exact ih answer (emits.2 answer trivial) said e later

/-- The conversation with fixed answers. -/
def converse (answer : (c : C) → Except E (R c)) : Prog C R E α → List (Exchange C R E) × Except E α
  | .ret a => ([], .ok a)
  | .fail e => ([], .error e)
  | .call c k =>
    let (log, r) := (k (answer c)).converse answer
    (⟨c, answer c⟩ :: log, r)

theorem transcript_converse (answer : (c : C) → Except E (R c)) (p : Prog C R E α) :
    p.Transcript (p.converse answer).1 (p.converse answer).2 := by
  induction p with
  | ret a => exact ⟨rfl, rfl⟩
  | fail e => exact ⟨rfl, rfl⟩
  | call c k ih => exact ⟨answer c, _, rfl, ih (answer c)⟩

end Prog
