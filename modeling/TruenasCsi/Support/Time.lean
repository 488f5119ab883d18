import Mathlib.Tactic.SplitIfs

/-! Civil time in UTC and its two texts. -/

structure Civil where
  year : Nat
  month : Nat
  day : Nat
  hour : Nat
  minute : Nat
  second : Nat
deriving DecidableEq

namespace Civil

variable (n : Nat) (t : Civil) (year : Nat)

private def digit : Char := Char.ofNat ('0'.toNat + n % 10)

/-- The last two decimal digits of a number. -/
def two : String := String.ofList [digit (n / 10), digit n]

def four : String := two (n / 100) ++ two n

/-- `20060102T150405Z` -/
def compact : String :=
  four t.year ++ two t.month ++ two t.day ++ "T" ++ two t.hour ++ two t.minute ++ two t.second ++ "Z"

/-- `2006-01-02T15:04:05Z` -/
def rfc3339 : String :=
  four t.year ++ "-" ++ two t.month ++ "-" ++ two t.day ++ "T" ++ two t.hour ++ ":" ++
    two t.minute ++ ":" ++ two t.second ++ "Z"

def isLeap : Bool := year % 4 == 0 && (year % 100 != 0 || year % 400 == 0)

def daysIn (month : Nat) : Nat :=
  if month = 2 then if isLeap year then 29 else 28
  else if month = 4 ∨ month = 6 ∨ month = 9 ∨ month = 11 then 30
  else 31

/-- A second of the years 0 to 9999. -/
def Valid : Prop :=
  t.year ≤ 9999 ∧ (1 ≤ t.month ∧ t.month ≤ 12) ∧ (1 ≤ t.day ∧ t.day ≤ daysIn t.year t.month) ∧
    t.hour < 24 ∧ t.minute < 60 ∧ t.second < 60

instance (t : Civil) : Decidable t.Valid := inferInstanceAs (Decidable (_ ∧ _))

def digitValue (c : Char) : Option Nat := if c.isDigit then some (c.toNat - 48) else none

def number (a b : Char) : Option Nat := do
  return 10 * (← digitValue a) + (← digitValue b)

/-- A fraction, and the zone. -/
def nanoseconds : List Char → Option Nat
  | ['Z'] => some 0
  | c :: rest =>
    let digits := rest.takeWhile Char.isDigit
    if (c = '.' ∨ c = ',') ∧ digits ≠ [] ∧ rest.dropWhile Char.isDigit = ['Z'] then
      some (Nat.ofDigitChars 10 ((digits ++ List.replicate 9 '0').take 9) 0)
    else none
  | [] => none

/-- Read `20060102T150405Z`, with its nanoseconds. -/
def parseCompact (s : String) : Option (Civil × Nat) :=
  match s.toList with
  | y₁ :: y₂ :: y₃ :: y₄ :: m₁ :: m₂ :: d₁ :: d₂ :: 'T' :: h₁ :: h₂ :: n₁ :: n₂ :: s₁ :: s₂ :: rest => do
    let t : Civil := ⟨100 * (← number y₁ y₂) + (← number y₃ y₄), ← number m₁ m₂, ← number d₁ d₂,
      ← number h₁ h₂, ← number n₁ n₂, ← number s₁ s₂⟩
    let nanos ← nanoseconds rest
    if t.Valid then some (t, nanos) else none
  | _ => none

theorem toList_two : (two n).toList = [Char.ofNat (48 + n / 10 % 10), Char.ofNat (48 + n % 10)] :=
  String.toList_ofList

theorem digitValue_ofNat : digitValue (Char.ofNat (48 + n % 10)) = some (n % 10) := by
  have each : ∀ k < 10, digitValue (Char.ofNat (48 + k)) = some k := by decide
  exact each (n % 10) (Nat.mod_lt n (by decide))

theorem number_two {n : Nat} (small : n < 100) :
    number (Char.ofNat (48 + n / 10 % 10)) (Char.ofNat (48 + n % 10)) = some n := by
  simp only [number, digitValue_ofNat, Option.bind_eq_bind, Option.bind_some, Option.pure_def,
    Option.some.injEq]
  omega

theorem toList_compact : t.compact.toList =
    (two (t.year / 100)).toList ++ (two t.year).toList ++ (two t.month).toList ++ (two t.day).toList ++
      ['T'] ++ (two t.hour).toList ++ (two t.minute).toList ++ (two t.second).toList ++ ['Z'] := by
  simp [compact, four]

theorem isAlphanum_two : ∀ c ∈ (two n).toList, c.isAlphanum = true := by
  have each : ∀ k < 10, (Char.ofNat (48 + k)).isAlphanum = true := by decide
  intro c member
  rw [toList_two, List.mem_cons, List.mem_singleton] at member
  rcases member with rfl | rfl <;> exact each _ (Nat.mod_lt _ (by decide))

theorem isAlphanum_compact : ∀ c ∈ t.compact.toList, c.isAlphanum = true := by
  simp only [toList_compact, List.forall_mem_append, List.forall_mem_singleton]
  and_intros
  all_goals first | exact isAlphanum_two _ | rfl

theorem parseCompact_compact {t : Civil} (valid : t.Valid) : parseCompact t.compact = some (t, 0) := by
  obtain ⟨year, ⟨-, month⟩, ⟨-, day⟩, hour, minute, second⟩ := id valid
  have short : daysIn t.year t.month ≤ 31 := by
    unfold daysIn
    split_ifs <;> decide
  -- The last two digits of the year do not see its centuries.
  have tens : t.year / 10 % 10 = t.year % 100 / 10 % 10 := by omega
  have ones : t.year % 10 = t.year % 100 % 10 := by omega
  have again : 100 * (t.year / 100) + t.year % 100 = t.year := Nat.div_add_mod _ _
  simp only [parseCompact, toList_compact, toList_two, List.cons_append, List.nil_append]
  rw [tens, ones, number_two (by omega), number_two (by omega), number_two (by omega),
    number_two (by omega), number_two (by omega), number_two (by omega), number_two (by omega)]
  simp [nanoseconds, again, valid]

end Civil
