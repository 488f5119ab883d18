import Mathlib.Data.List.Infix
import Mathlib.Tactic.SplitIfs

/-! Every occurrence of a word, found from the left, gives way to a mask. -/

namespace Replace

variable {α : Type} {old word x y core s : List α} {a b : α}

theorem infix_around (foreign : b ∉ word) (inside : word <:+: x ++ b :: y) :
    word <:+: x ∨ word <:+: y := by
  obtain ⟨u, v, same⟩ := inside
  rcases List.append_eq_append_iff.mp same with ⟨more, rfl, -⟩ | ⟨more, left, right⟩
  · exact .inl ⟨u, more, rfl⟩
  · cases more with
    | nil => exact .inl ⟨u, [], by simpa using left⟩
    | cons c more =>
      obtain ⟨rfl, rfl⟩ := List.cons.inj right
      rcases List.append_eq_append_iff.mp left with ⟨front, -, rfl⟩ | ⟨front, -, tail⟩
      · simp at foreign
      · cases front with
        | nil =>
          have whole : word = b :: more := tail.symm
          simp [whole] at foreign
        | cons d front =>
          have rest : more = front ++ word := (List.cons.inj tail).2
          exact .inr ⟨front, v, by rw [rest]; rfl⟩

section

variable (first : a ∉ word) (last : b ∉ word) (longer : core.length < word.length)

include first last longer

theorem infix_intercalate {ps : List (List α)}
    (inside : word <:+: (a :: core ++ [b]).intercalate ps) : ∃ p ∈ ps, word <:+: p := by
  induction ps with
  | nil =>
    have empty : word = [] := List.infix_nil.mp inside
    simp [empty] at longer
  | cons p ps ih =>
    cases ps with
    | nil => exact ⟨p, by simp, by simpa using inside⟩
    | cons q ps =>
      rw [List.intercalate_cons_cons] at inside
      simp only [List.cons_append, List.append_assoc, List.nil_append] at inside
      -- A word across a seam would hold `a` or `b`, or fit between them.
      rcases infix_around first inside with here | inside
      · exact ⟨p, by simp, here⟩
      · rcases infix_around last inside with short | inside
        · have := short.length_le
          omega
        · obtain ⟨p', member, there⟩ := ih (by simpa using inside)
          exact ⟨p', List.mem_cons_of_mem _ member, there⟩

end

variable [DecidableEq α]

/-- The parts of a text around a word. -/
def parts (old : List α) : Nat → List α → List (List α)
  | _, [] => [[]]
  | skip + 1, _ :: rest => parts old skip rest
  | 0, c :: rest =>
    if old <+: c :: rest then [] :: parts old (old.length - 1) rest
    else (parts old 0 rest).modifyHead (c :: ·)

def replaceAll (s old new : List α) : List α := new.intercalate (parts old 0 s)

/-- The parts are in the text, and the word in none. -/
theorem parts_eq (nonempty : old ≠ []) (skip : Nat) (s : List α) : ∃ p ps, parts old skip s = p :: ps ∧
    (p <+: s.drop skip ∧ ¬old <:+: p) ∧ ∀ q ∈ ps, q <:+: s ∧ ¬old <:+: q := by
  have none : ¬old <:+: [] := fun inside => nonempty (List.infix_nil.mp inside)
  fun_induction parts old skip s with
  | case1 skip => exact ⟨[], [], rfl, ⟨by simp, none⟩, nofun⟩
  | case2 skip c rest ih =>
    obtain ⟨p, ps, same, first, later⟩ := ih
    have onward : rest <:+: c :: rest := (List.suffix_cons c rest).isInfix
    exact ⟨p, ps, same, first, fun q member => (later q member).imp_left (·.trans onward)⟩
  | case3 c rest occurs ih =>
    obtain ⟨p, ps, same, first, later⟩ := ih
    have onward : rest <:+: c :: rest := (List.suffix_cons c rest).isInfix
    refine ⟨[], _, rfl, ⟨by simp, none⟩, fun q member => ?_⟩
    rw [same] at member
    rcases List.mem_cons.mp member with rfl | behind
    · exact ⟨(first.1.isInfix.trans (List.drop_suffix _ _).isInfix).trans onward, first.2⟩
    · exact (later q behind).imp_left (·.trans onward)
  | case4 c rest absent ih =>
    obtain ⟨p, ps, same, first, later⟩ := ih
    have begins : c :: p <+: c :: rest := List.cons_prefix_cons.mpr ⟨rfl, first.1⟩
    refine ⟨c :: p, ps, by rw [same]; rfl, ⟨begins, fun inside => ?_⟩, fun q member => ?_⟩
    · rcases List.infix_cons_iff.mp inside with here | there
      · exact absent (here.trans begins)
      · exact first.2 there
    · exact (later q member).imp_left (·.trans (List.suffix_cons c rest).isInfix)

theorem mem_parts (nonempty : old ≠ []) {q : List α} (member : q ∈ parts old 0 s) :
    q <:+: s ∧ ¬old <:+: q := by
  obtain ⟨p, ps, same, first, later⟩ := parts_eq nonempty 0 s
  rw [same] at member
  rcases List.mem_cons.mp member with rfl | rest
  · exact ⟨first.1.isInfix, first.2⟩
  · exact later q rest

/-- What is there afterwards was there before. -/
theorem infix_of_replaceAll (nonempty : old ≠ []) (first : a ∉ word) (last : b ∉ word)
    (longer : core.length < word.length)
    (inside : word <:+: replaceAll s old (a :: core ++ [b])) : word <:+: s ∧ word ≠ old := by
  obtain ⟨q, member, there⟩ := infix_intercalate first last longer inside
  obtain ⟨within, without⟩ := mem_parts nonempty member
  exact ⟨there.trans within, fun same => without (same ▸ there)⟩

end Replace
