import TruenasCsi.Support.Replace
import Mathlib.Data.List.Sort

/-! Secrets are replaced by a mask, the longest first. -/

namespace TruenasCsi.Obs

open Replace

/-- A text, as its bytes. -/
abbrev Bytes := List UInt8

def ascii (s : String) : Bytes := s.toList.map fun c => UInt8.ofNat c.toNat

def mask : Bytes := ascii "[redacted]"

def minSecretLen : Nat := 6

/-- Short secrets are not kept, longer ones first. -/
def register (secrets : List Bytes) (secret : Bytes) : List Bytes :=
  if secret.length < minSecretLen ∨ secret ∈ secrets then secrets
  else (secrets ++ [secret]).insertionSort fun s t => t.length ≤ s.length

def redactOne (s secret : Bytes) : Bytes :=
  if secret <:+: s then replaceAll s secret mask else s

/-- One secret after the other. -/
def redact (secrets : List Bytes) (s : Bytes) : Bytes :=
  if s = [] then s else secrets.foldl redactOne s

/-- At least nine bytes, no square bracket. -/
def Secret (t : Bytes) : Prop := 9 ≤ t.length ∧ 91 ∉ t ∧ 93 ∉ t

variable {secrets calls : List Bytes} {s t secret : Bytes}

theorem mem_register (fine : Secret secret) :
    t ∈ register secrets secret ↔ t ∈ secrets ∨ t = secret := by
  have long : ¬secret.length < minSecretLen := by
    have := fine.1
    unfold minSecretLen
    omega
  unfold register
  split_ifs with known
  · have there := known.resolve_left long
    constructor
    · exact .inl
    · rintro (old | rfl)
      · exact old
      · exact there
  · rw [List.mem_insertionSort, List.mem_append, List.mem_singleton]

theorem mem_registered (fine : ∀ t ∈ calls, Secret t) :
    t ∈ calls.foldl register secrets ↔ t ∈ secrets ∨ t ∈ calls := by
  induction calls generalizing secrets with
  | nil => simp
  | cons c calls ih =>
    obtain ⟨first, rest⟩ := List.forall_mem_cons.mp fine
    rw [List.foldl_cons, ih rest, mem_register first, List.mem_cons, or_assoc]

/-- One replacement brings in no secret. -/
theorem infix_of_redactOne (fine : Secret secret) (any : Secret t)
    (inside : t <:+: redactOne s secret) :
    t <:+: s ∧ t ≠ secret := by
  unfold redactOne at inside
  split_ifs at inside with there
  · have nonempty : secret ≠ [] := by
      rintro rfl
      exact absurd fine.1 (by decide)
    have shape : mask = 91 :: ascii "redacted" ++ [93] := rfl
    rw [shape] at inside
    exact infix_of_replaceAll nonempty any.2.1 any.2.2 (by exact any.1) inside
  · exact ⟨inside, fun same => there (same ▸ inside)⟩

theorem infix_of_foldl (fine : ∀ t ∈ secrets, Secret t) (any : Secret t)
    (inside : t <:+: secrets.foldl redactOne s) : t <:+: s ∧ t ∉ secrets := by
  induction secrets generalizing s with
  | nil => exact ⟨inside, nofun⟩
  | cons c secrets ih =>
    obtain ⟨first, rest⟩ := List.forall_mem_cons.mp fine
    -- From the last replacement back to the first.
    obtain ⟨before, other⟩ := ih rest inside
    obtain ⟨start, different⟩ := infix_of_redactOne first any before
    exact ⟨start, by simp [different, other]⟩

theorem foldl_clean (clean : ∀ t ∈ secrets, ¬t <:+: s) : secrets.foldl redactOne s = s := by
  induction secrets with
  | nil => rfl
  | cons c secrets ih =>
    obtain ⟨first, rest⟩ := List.forall_mem_cons.mp clean
    rw [List.foldl_cons, redactOne, if_neg first, ih rest]

/-- For all registered secrets of nine bytes or more without square brackets, and every text: no secret is
left in the redacted text, and redacting it again changes nothing. -/
theorem redacted_clean (calls : List Bytes) (s : Bytes) (fine : ∀ t ∈ calls, Secret t) :
    (∀ t ∈ calls, ¬t <:+: redact (calls.foldl register []) s) ∧
      redact (calls.foldl register []) (redact (calls.foldl register []) s) =
        redact (calls.foldl register []) s := by
  have registered : ∀ t, t ∈ calls.foldl register [] ↔ t ∈ calls := fun t => by
    simp [mem_registered fine]
  have all : ∀ t ∈ calls.foldl register [], Secret t := fun t member =>
    fine t ((registered t).mp member)
  have clean : ∀ t ∈ calls, ¬t <:+: redact (calls.foldl register []) s := by
    intro t member inside
    unfold redact at inside
    split_ifs at inside with empty
    · have := (fine t member).1
      rw [empty] at inside
      simp [List.infix_nil.mp inside] at this
    · exact (infix_of_foldl all (fine t member) inside).2 ((registered t).mpr member)
  refine ⟨clean, ?_⟩
  have again := foldl_clean fun t member => clean t ((registered t).mp member)
  generalize redact (calls.foldl register []) s = r at again
  rw [redact, again, ite_self]

def overlapping : List Bytes := [ascii "key-12345", ascii "key-12345-long", ascii "12345-long-tail"]

/-- Three secrets: one contains another and the third overlaps both. -/
theorem redacted_clean_sample :
    ¬ascii "key-12345" <:+: redact (overlapping.foldl register []) (ascii "a key-12345-long-tail b") ∧
      ¬ascii "key-12345-long" <:+:
        redact (overlapping.foldl register []) (ascii "a key-12345-long-tail b") ∧
      ¬ascii "12345-long-tail" <:+:
        redact (overlapping.foldl register []) (ascii "a key-12345-long-tail b") := by
  have clean := (redacted_clean overlapping (ascii "a key-12345-long-tail b")
    (by simp [overlapping, Secret, ascii])).1
  simpa only [overlapping, List.forall_mem_cons, List.not_mem_nil, false_imp_iff, implies_true,
    and_true] using clean

end TruenasCsi.Obs
