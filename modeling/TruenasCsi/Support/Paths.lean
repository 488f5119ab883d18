import TruenasCsi.Support.Text

/-! Paths as lists of components. -/

namespace Text

variable {sep : Char}

theorem split_append (sep : Char) (a b : String) :
    split sep (a ++ String.singleton sep ++ b) = split sep a ++ split sep b := by
  have chars : (a ++ String.singleton sep ++ b).toList = a.toList ++ sep :: b.toList := by simp
  rw [split, chars, List.splitOn, List.splitOnP_append_cons _ _ (by simp), List.map_append]
  rfl

private theorem notMem_piece {x : Char} (chars piece : List Char) (member : piece ∈ chars.splitOn x) :
    x ∉ piece := by
  induction chars generalizing piece with
  | nil =>
    rw [List.splitOn, List.splitOnP_nil, List.mem_singleton] at member
    simp [member]
  | cons c rest ih =>
    rw [List.splitOn, List.splitOnP_cons_eq_if_modifyHead] at member
    split_ifs at member with isSep
    · rcases List.mem_cons.mp member with rfl | later
      · simp
      · exact ih piece later
    · cases pieces : rest.splitOnP (· == x) with
      | nil => exact absurd pieces (List.splitOnP_ne_nil _ _)
      | cons first others =>
        rw [pieces, List.modifyHead_cons] at member
        have covered : ∀ l ∈ first :: others, x ∉ l := by
          intro l listed
          exact ih l (by rw [List.splitOn, pieces]; exact listed)
        rcases List.mem_cons.mp member with rfl | later
        · have other : x ≠ c := by
            rintro rfl
            simp at isSep
          simp [other, covered first (by simp)]
        · exact covered piece (by simp [later])

theorem notMem_of_mem_split {s p : String} (member : p ∈ split sep s) : sep ∉ p.toList := by
  obtain ⟨piece, listed, rfl⟩ := List.mem_map.mp member
  rw [String.toList_ofList]
  exact notMem_piece s.toList piece listed

theorem split_of_notMem {s : String} (clean : sep ∉ s.toList) : split sep s = [s] := by
  have others : ∀ c ∈ s.toList, (c == sep) = false := by
    intro c member
    simp only [beq_eq_false_iff_ne]
    rintro rfl
    exact clean member
  rw [split, List.splitOn, List.splitOnP_eq_singleton others]
  simp

theorem split_inj {a b : String} (same : split sep a = split sep b) : a = b := by
  rw [← join_split sep a, same, join_split]

theorem join_append {front back : List String} (nonempty : back ≠ []) (more : front ≠ []) :
    join (String.singleton sep) (front ++ back) =
      join (String.singleton sep) front ++ String.singleton sep ++ join (String.singleton sep) back := by
  apply String.toList_inj.mp
  rw [toList_join, String.toList_append, String.toList_append, toList_join, toList_join]
  induction front with
  | nil => exact absurd rfl more
  | cons first rest ih =>
    cases rest with
    | nil =>
      obtain ⟨b, bs, rfl⟩ := List.exists_cons_of_ne_nil nonempty
      simp [List.intercalate]
    | cons second rest =>
      have tail := ih (by simp)
      simp only [List.cons_append, List.map_cons, List.intercalate, List.intersperse_cons_cons,
        List.flatten_cons] at tail ⊢
      rw [tail]
      simp

/-- Below another iff its components begin so. -/
theorem below_iff_prefix {root path : String} :
    path = root ∨ startsWith path (root ++ String.singleton sep) = true ↔
      split sep root <+: split sep path := by
  constructor
  · rintro (rfl | below)
    · exact List.prefix_rfl
    · obtain ⟨rest, rfl⟩ := startsWith_iff.mp below
      rw [split_append]
      exact List.prefix_append _ _
  · rintro ⟨more, whole⟩
    cases more with
    | nil => exact .inl (split_inj (by rw [← whole, List.append_nil]))
    | cons first rest =>
      refine .inr (startsWith_iff.mpr ⟨join (String.singleton sep) (first :: rest), ?_⟩)
      rw [← join_split sep path, ← whole, join_append (by simp) (split_ne_nil _ _), join_split]

end Text
