import TruenasCsi.Support.Time
import Mathlib.Algebra.GroupWithZero.Nat
import Mathlib.Algebra.Ring.Int.Defs

/-! Instants of civil time, and reading RFC 3339. -/

namespace Civil

variable (t : Civil)

/-- The days before a year, counted from the year 0. -/
def daysBefore (year : Nat) : Nat :=
  365 * year + (year + 3) / 4 - (year + 99) / 100 + (year + 399) / 400

def days : Nat :=
  daysBefore t.year + ((List.range (t.month - 1)).map fun m => daysIn t.year (m + 1)).sum + (t.day - 1)

/-- The nanoseconds since the year 0. -/
def instant : Int :=
  (((t.days * 24 + t.hour) * 60 + t.minute) * 60 + t.second : Nat) * 10 ^ 9

/-- A number of one or two digits, with what follows it. -/
def oneOrTwo : List Char → Option (Nat × List Char)
  | [] => none
  | a :: rest => do
    let tens ← digitValue a
    match rest with
    | [] => return (tens, [])
    | b :: more =>
      match digitValue b with
      | some ones => return (10 * tens + ones, more)
      | none => return (tens, rest)

/-- A fraction of a second in nanoseconds, with what follows it. -/
def fraction : List Char → Nat × List Char
  | [] => (0, [])
  | c :: rest =>
    let digits := rest.takeWhile Char.isDigit
    if (c = '.' ∨ c = ',') ∧ digits ≠ [] then
      (Nat.ofDigitChars 10 ((digits ++ List.replicate 9 '0').take 9) 0, rest.dropWhile Char.isDigit)
    else (0, c :: rest)

/-- The seconds a zone is ahead of UTC. -/
def zone : List Char → Option Int
  | ['Z'] => some 0
  | [sign, h₁, h₂, ':', m₁, m₂] => do
    let hours ← number h₁ h₂
    let minutes ← number m₁ m₂
    let offset : Int := (hours * 60 + minutes : Nat) * 60
    if hours > 24 ∨ minutes > 60 then none
    else if sign = '+' then some offset
    else if sign = '-' then some (-offset)
    else none
  | _ => none

/-- Read `2006-01-02T15:04:05Z07:00` as an instant. -/
def parseRFC3339 (s : String) : Option Int :=
  match s.toList with
  | y₁ :: y₂ :: y₃ :: y₄ :: '-' :: m₁ :: m₂ :: '-' :: d₁ :: d₂ :: 'T' :: rest => do
    let (hour, rest) ← oneOrTwo rest
    match rest with
    | ':' :: n₁ :: n₂ :: ':' :: s₁ :: s₂ :: rest => do
      let t : Civil := ⟨100 * (← number y₁ y₂) + (← number y₃ y₄), ← number m₁ m₂, ← number d₁ d₂,
        hour, ← number n₁ n₂, ← number s₁ s₂⟩
      let offset ← zone (fraction rest).2
      if t.Valid then some (t.instant + (fraction rest).1 - offset * 10 ^ 9) else none
    | _ => none
  | _ => none

theorem toList_rfc3339 : t.rfc3339.toList =
    (two (t.year / 100)).toList ++ (two t.year).toList ++ ['-'] ++ (two t.month).toList ++ ['-'] ++
      (two t.day).toList ++ ['T'] ++ (two t.hour).toList ++ [':'] ++ (two t.minute).toList ++ [':'] ++
      (two t.second).toList ++ ['Z'] := by
  simp [rfc3339, four]

theorem oneOrTwo_two {n : Nat} (small : n < 100) (rest : List Char) :
    oneOrTwo (Char.ofNat (48 + n / 10 % 10) :: Char.ofNat (48 + n % 10) :: rest) = some (n, rest) := by
  have whole : 10 * (n / 10 % 10) + n % 10 = n := by omega
  simp [oneOrTwo, digitValue_ofNat, whole]

theorem parseRFC3339_rfc3339 {t : Civil} (valid : t.Valid) :
    parseRFC3339 t.rfc3339 = some t.instant := by
  obtain ⟨year, ⟨-, month⟩, ⟨-, day⟩, hour, minute, second⟩ := id valid
  have short : daysIn t.year t.month ≤ 31 := by
    unfold daysIn
    split_ifs <;> decide
  -- The last two digits of the year do not see its centuries.
  have tens : t.year / 10 % 10 = t.year % 100 / 10 % 10 := by omega
  have ones : t.year % 10 = t.year % 100 % 10 := by omega
  have again : 100 * (t.year / 100) + t.year % 100 = t.year := Nat.div_add_mod _ _
  simp only [parseRFC3339, toList_rfc3339, toList_two, List.cons_append, List.nil_append]
  rw [oneOrTwo_two (by omega), tens, ones]
  simp only [Option.bind_eq_bind, Option.bind_some, number_two (show t.year / 100 < 100 by omega),
    number_two (show t.year % 100 < 100 by omega), number_two (show t.month < 100 by omega),
    number_two (show t.day < 100 by omega), number_two (show t.minute < 100 by omega),
    number_two (show t.second < 100 by omega), again]
  simp [fraction, zone, valid]

end Civil
