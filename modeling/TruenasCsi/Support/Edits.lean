import Mathlib.Order.Bounds.Basic
import Mathlib.Order.MinMax

/-! Edits of single symbols between two words. -/

variable {α : Type}

/-- `n` edits lead from one word to the other. -/
inductive Edits : Nat → List α → List α → Prop
  | nil : Edits 0 [] []
  | keep {n : Nat} {xs ys : List α} (x : α) : Edits n xs ys → Edits n (x :: xs) (x :: ys)
  | replace {n : Nat} {xs ys : List α} (x y : α) : Edits n xs ys → Edits (n + 1) (x :: xs) (y :: ys)
  | remove {n : Nat} {xs ys : List α} (x : α) : Edits n xs ys → Edits (n + 1) (x :: xs) ys
  | add {n : Nat} {xs ys : List α} (y : α) : Edits n xs ys → Edits (n + 1) xs (y :: ys)

namespace Edits

variable {m n : Nat} {xs ys us vs : List α} {x y : α}

theorem append (first : Edits m xs ys) (second : Edits n us vs) :
    Edits (n + m) (xs ++ us) (ys ++ vs) := by
  induction first with
  | nil => exact second
  | keep x _ ih => exact ih.keep x
  | replace x y _ ih => exact ih.replace x y
  | remove x _ ih => exact ih.remove x
  | add y _ ih => exact ih.add y

theorem reverse (edits : Edits n xs ys) : Edits n xs.reverse ys.reverse := by
  induction edits with
  | nil => exact .nil
  | keep x _ ih => simpa using ih.append (.keep x .nil)
  | replace x y _ ih => simpa [Nat.add_comm] using ih.append (.replace x y .nil)
  | remove x _ ih => simpa [Nat.add_comm] using ih.append (.remove x .nil)
  | add y _ ih => simpa [Nat.add_comm] using ih.append (.add y .nil)

theorem length_le (edits : Edits n xs ys) : ys.length ≤ xs.length + n ∧ xs.length ≤ ys.length + n := by
  induction edits with
  | nil => simp
  | _ => simp only [List.length_cons]; omega

/-- The least number of edits. -/
def Distance (n : Nat) (xs ys : List α) : Prop := IsLeast {k | Edits k xs ys} n

theorem distance_nil_left (ys : List α) : Distance ys.length [] ys := by
  constructor
  · induction ys with
    | nil => exact .nil
    | cons y ys ih => exact ih.add y
  · intro k edits
    simpa using edits.length_le.1

theorem distance_nil_right (xs : List α) : Distance xs.length xs [] := by
  constructor
  · induction xs with
    | nil => exact .nil
    | cons x xs ih => exact ih.remove x
  · intro k edits
    simpa using edits.length_le.2

/-- The last symbols: kept, exchanged or new. -/
theorem distance_snoc [DecidableEq α] {left above diagonal : Nat}
    (shorter : Distance diagonal xs ys) (added : Distance left (xs ++ [x]) ys)
    (removed : Distance above xs (ys ++ [y])) :
    Distance (min (min (left + 1) (above + 1)) (diagonal + if x = y then 0 else 1))
      (xs ++ [x]) (ys ++ [y]) := by
  constructor
  · have last : Edits (diagonal + if x = y then 0 else 1) (xs ++ [x]) (ys ++ [y]) := by
      split_ifs with same
      · subst same
        simpa using shorter.1.append (.keep x .nil)
      · simpa [Nat.add_comm] using shorter.1.append (.replace x y .nil)
    have new : Edits (left + 1) (xs ++ [x]) (ys ++ [y]) := by
      simpa [Nat.add_comm] using added.1.append (.add y .nil)
    have old : Edits (above + 1) (xs ++ [x]) (ys ++ [y]) := by
      simpa [Nat.add_comm] using removed.1.append (.remove x .nil)
    rcases min_choice (min (left + 1) (above + 1)) (diagonal + if x = y then 0 else 1) with it | it
    · rw [it]
      rcases min_choice (left + 1) (above + 1) with it | it <;> rw [it]
      · exact new
      · exact old
    · rw [it]
      exact last
  · intro k edits
    -- Read from its end, the sequence of edits begins with the last symbols.
    have back : Edits k (x :: xs.reverse) (y :: ys.reverse) := by simpa using edits.reverse
    cases back with
    | keep _ rest =>
      have := shorter.2 (by simpa using rest.reverse)
      simp only [if_true]
      omega
    | replace _ _ rest =>
      have := shorter.2 (by simpa using rest.reverse)
      split_ifs <;> omega
    | remove _ rest =>
      have := removed.2 (by simpa using rest.reverse)
      omega
    | add _ rest =>
      have := added.2 (by simpa using rest.reverse)
      omega

end Edits
