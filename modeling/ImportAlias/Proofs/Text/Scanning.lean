import ImportAlias.Text.Scan

/-!
# Induction along a scan

A scan goes on by a single character where nothing is recognised, and by the whole of what is
recognised otherwise. `scan_induction` follows it, for any recogniser that takes at least one
character and no more than there are.
-/
namespace ImportAlias

section Scanning
variable {α : Type} {recognise : Text → Option (α × Nat)}

@[simp] theorem found?_plain (c : Char) (pieces : List (Piece α)) :
    (.plain c :: pieces).filterMap Piece.found? = pieces.filterMap Piece.found? := rfl

@[simp] theorem found?_found (a : α) (pieces : List (Piece α)) :
    (.found a :: pieces).filterMap Piece.found? = a :: pieces.filterMap Piece.found? := rfl

/-- What is recognised takes a part of the text that is not empty. -/
def Advances (recognise : Text → Option (α × Nat)) : Prop :=
  ∀ s a n, recognise s = some (a, n) → 0 < n ∧ n ≤ s.length

theorem scan_cons_of_none {c : Char} {rest : Text} (h : recognise (c :: rest) = none) :
    scan recognise (c :: rest) = .plain c :: scan recognise rest := by
  simp [scan, scanFrom, h]

theorem scan_of_some (hadvances : Advances recognise) {s : Text} {a : α} {n : Nat}
    (h : recognise s = some (a, n)) :
    scan recognise s = .found a :: scan recognise (s.drop n) := by
  obtain ⟨hpos, hle⟩ := hadvances s a n h
  cases s with
  | nil =>
    rw [List.length_nil] at hle
    omega
  | cons c rest =>
    obtain ⟨m, rfl⟩ : ∃ m, n = m + 1 := ⟨n - 1, by omega⟩
    rw [scan, scanFrom, h]
    simp [scanFrom_eq_scan_drop]

theorem scan_induction (hadvances : Advances recognise)
    {motive : Text → List (Piece α) → Prop} (nil : motive [] [])
    (plain : ∀ c rest, recognise (c :: rest) = none → motive rest (scan recognise rest) →
      motive (c :: rest) (.plain c :: scan recognise rest))
    (found : ∀ s a n, recognise s = some (a, n) → motive (s.drop n) (scan recognise (s.drop n)) →
      motive s (.found a :: scan recognise (s.drop n)))
    (s : Text) : motive s (scan recognise s) := by
  induction hlen : s.length using Nat.strongRecOn generalizing s with
  | ind len ih =>
    cases hr : recognise s with
    | none =>
      cases s with
      | nil => exact nil
      | cons c rest =>
        have hshorter : rest.length < len := by
          rw [List.length_cons] at hlen
          omega
        rw [scan_cons_of_none hr]
        exact plain c rest hr (ih rest.length hshorter rest rfl)
    | some found? =>
      obtain ⟨a, n⟩ := found?
      obtain ⟨hpos, hle⟩ := hadvances s a n hr
      have hshorter : (s.drop n).length < len := by
        rw [List.length_drop]
        omega
      rw [scan_of_some hadvances hr]
      exact found s a n hr (ih _ hshorter _ rfl)

end Scanning

end ImportAlias
