import ImportAlias.Text.Basic

/-!
# Parts between separators

Where the members of the parts come from, and what splitting does to a list with a separator in
its middle. Splitting and joining undo each other, as long as no part holds the separator.
-/
namespace ImportAlias

section Split
variable {α : Type}

theorem mem_joinWith {sep x : α} {parts : List (List α)} (h : x ∈ joinWith sep parts) :
    x = sep ∨ ∃ part ∈ parts, x ∈ part := by
  fun_induction joinWith sep parts with
  | case1 => cases h
  | case2 part => exact Or.inr ⟨part, List.mem_singleton_self part, h⟩
  | case3 part parts _ ih =>
    rcases List.mem_append.1 h with hpart | htail
    · exact Or.inr ⟨part, List.mem_cons_self, hpart⟩
    rcases List.mem_cons.1 htail with hsep | hrest
    · exact Or.inl hsep
    rcases ih hrest with hsep | ⟨other, hother, hx⟩
    · exact Or.inl hsep
    · exact Or.inr ⟨other, List.mem_cons_of_mem part hother, hx⟩

theorem mem_joinWith_of_mem {sep x : α} {parts : List (List α)} {part : List α}
    (hpart : part ∈ parts) (hx : x ∈ part) : x ∈ joinWith sep parts := by
  fun_induction joinWith sep parts with
  | case1 => cases hpart
  | case2 only =>
    rw [List.mem_singleton.1 hpart] at hx
    exact hx
  | case3 first parts _ ih =>
    rcases List.mem_cons.1 hpart with rfl | hrest
    · exact List.mem_append_left _ hx
    · exact List.mem_append_right _ (List.mem_cons_of_mem sep (ih hrest))

theorem mem_of_mem_splitOn [DecidableEq α] {sep x : α} {s part : List α}
    (hpart : part ∈ splitOn sep s) (hx : x ∈ part) : x ∈ s := by
  induction s generalizing part with
  | nil =>
    rw [splitOn, List.mem_singleton] at hpart
    subst hpart
    exact hx
  | cons a rest ih =>
    rw [splitOn] at hpart
    split at hpart
    · rcases List.mem_cons.1 hpart with rfl | hpart
      · cases hx
      · exact List.mem_cons_of_mem a (ih hpart hx)
    · split at hpart
      · rename_i hsplit
        exact absurd hsplit (splitOn_ne_nil sep rest)
      · rename_i first others hsplit
        rcases List.mem_cons.1 hpart with rfl | hpart
        · rcases List.mem_cons.1 hx with rfl | hx
          · exact List.mem_cons_self
          · exact List.mem_cons_of_mem a (ih (hsplit ▸ List.mem_cons_self) hx)
        · exact List.mem_cons_of_mem a (ih (hsplit ▸ List.mem_cons_of_mem first hpart) hx)

theorem splitOn_append [DecidableEq α] (sep : α) (u v : List α) :
    splitOn sep (u ++ sep :: v) = splitOn sep u ++ splitOn sep v := by
  induction u with
  | nil => simp [splitOn]
  | cons a u ih =>
    rw [List.cons_append, splitOn, splitOn, ih]
    split
    · rfl
    · cases hu : splitOn sep u with
      | nil => exact absurd hu (splitOn_ne_nil sep u)
      | cons part parts => rfl

theorem splitOn_of_not_mem [DecidableEq α] {sep : α} {s : List α} (h : sep ∉ s) :
    splitOn sep s = [s] := by
  induction s with
  | nil => rfl
  | cons a s ih =>
    rw [List.mem_cons, not_or] at h
    rw [splitOn, if_neg (Ne.symm h.1), ih h.2]

theorem not_mem_of_mem_splitOn [DecidableEq α] {sep : α} {s part : List α}
    (hpart : part ∈ splitOn sep s) : sep ∉ part := by
  induction s generalizing part with
  | nil =>
    rw [splitOn, List.mem_singleton] at hpart
    subst hpart
    exact List.not_mem_nil
  | cons a rest ih =>
    rw [splitOn] at hpart
    split at hpart
    · rcases List.mem_cons.1 hpart with rfl | hpart
      · exact List.not_mem_nil
      · exact ih hpart
    · rename_i hne
      split at hpart
      · rename_i hsplit
        exact absurd hsplit (splitOn_ne_nil sep rest)
      · rename_i first others hsplit
        rcases List.mem_cons.1 hpart with rfl | hpart
        · rw [List.mem_cons, not_or]
          exact ⟨Ne.symm hne, ih (hsplit ▸ List.mem_cons_self)⟩
        · exact ih (hsplit ▸ List.mem_cons_of_mem first hpart)

/-- Splitting undoes joining, if no part holds the separator. -/
theorem splitOn_joinWith [DecidableEq α] {sep : α} {parts : List (List α)} (hne : parts ≠ [])
    (h : ∀ part ∈ parts, sep ∉ part) : splitOn sep (joinWith sep parts) = parts := by
  fun_induction joinWith sep parts with
  | case1 => exact absurd rfl hne
  | case2 part => exact splitOn_of_not_mem (h part List.mem_cons_self)
  | case3 part parts hmore ih =>
    obtain ⟨hpart, hrest⟩ := List.forall_mem_cons.1 h
    rw [splitOn_append, splitOn_of_not_mem hpart, ih hmore hrest]
    rfl

theorem joinWith_concat {sep : α} {parts : List (List α)} (hne : parts ≠ []) (last : List α) :
    joinWith sep (parts ++ [last]) = joinWith sep parts ++ sep :: last := by
  fun_induction joinWith sep parts with
  | case1 => exact absurd rfl hne
  | case2 part => rfl
  | case3 part parts hmore ih =>
    have hmore' : parts ++ [last] ≠ [] := by simp
    rw [List.cons_append, joinWith, ih hmore, List.append_assoc]
    · rfl
    · exact hmore'

theorem joinWith_append {sep : α} {front back : List (List α)} (hfront : front ≠ [])
    (hback : back ≠ []) :
    joinWith sep (front ++ back) = joinWith sep front ++ sep :: joinWith sep back := by
  fun_induction joinWith sep front with
  | case1 => exact absurd rfl hfront
  | case2 part =>
    rw [List.singleton_append, joinWith]
    exact hback
  | case3 part parts hmore ih =>
    rw [List.cons_append, joinWith, ih hmore, List.append_assoc]
    · rfl
    · exact fun hnil => hmore (List.append_eq_nil_iff.1 hnil).1

/-- The first part goes up to the first separator. -/
theorem head?_splitOn [DecidableEq α] (sep : α) (s : List α) :
    (splitOn sep s).head? = some (s.takeWhile (· ≠ sep)) := by
  induction s with
  | nil => rfl
  | cons a rest ih =>
    by_cases ha : a = sep
    · simp [splitOn, ha]
    · obtain ⟨parts, hparts⟩ := List.head?_eq_some_iff.1 ih
      simp [splitOn, ha, hparts]

/-- A list is its first part, or goes on after a separator. -/
theorem eq_or_exists_of_head?_splitOn [DecidableEq α] {sep : α} {s part : List α}
    (h : (splitOn sep s).head? = some part) : s = part ∨ ∃ rest, s = part ++ sep :: rest := by
  obtain ⟨parts, hparts⟩ := List.head?_eq_some_iff.1 h
  have hjoin := joinWith_splitOn sep s
  rw [hparts] at hjoin
  cases parts with
  | nil => exact Or.inl hjoin.symm
  | cons next more => exact Or.inr ⟨_, hjoin.symm⟩

end Split

end ImportAlias
