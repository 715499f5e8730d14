import ImportAlias.Text.Basic

/-!
# Scanning a text

Leftmost, non-overlapping search in a text. A recogniser says what stands at the start of a text
and how many characters it takes; the scan goes from left to right and resumes after each find.
-/
namespace ImportAlias

inductive Piece (α : Type) where
  | plain (c : Char)
  | found (a : α)

namespace Piece
variable {α β : Type}

def found? : Piece α → Option α
  | plain _ => none
  | found a => some a

def map (f : α → β) : Piece α → Piece β
  | plain c => plain c
  | found a => found (f a)

/-- The text of a piece, given the text of what was found. -/
def text (render : α → Text) : Piece α → Text
  | plain c => [c]
  | found a => render a

end Piece

variable {α : Type}

/-- `skip` characters are still part of the last find. -/
def scanFrom (recognise : Text → Option (α × Nat)) : Nat → Text → List (Piece α)
  | _, [] => []
  | skip + 1, _ :: rest => scanFrom recognise skip rest
  | 0, c :: rest =>
    match recognise (c :: rest) with
    | some (a, size) => .found a :: scanFrom recognise (size - 1) rest
    | none => .plain c :: scanFrom recognise 0 rest

def scan (recognise : Text → Option (α × Nat)) (s : Text) : List (Piece α) :=
  scanFrom recognise 0 s

theorem scanFrom_eq_scan_drop (recognise : Text → Option (α × Nat)) (skip : Nat) (s : Text) :
    scanFrom recognise skip s = scan recognise (s.drop skip) := by
  induction s generalizing skip with
  | nil => simp [scan, scanFrom]
  | cons c rest ih =>
    cases skip with
    | zero => rfl
    | succ n => simpa [scanFrom] using ih n

/-- If what is found always stands at the start of the text, scanning loses nothing. -/
theorem flatMap_text_scan (recognise : Text → Option (α × Nat)) (render : α → Text)
    (sound : ∀ s a n, recognise s = some (a, n) →
      render a ≠ [] ∧ n = (render a).length ∧ ∃ rest, s = render a ++ rest) (s : Text) :
    (scan recognise s).flatMap (Piece.text render) = s := by
  induction hn : s.length using Nat.strongRecOn generalizing s with
  | ind len ih =>
    cases s with
    | nil => simp [scan, scanFrom]
    | cons c rest =>
      cases hr : recognise (c :: rest) with
      | none =>
        have hs : scan recognise (c :: rest) = .plain c :: scan recognise rest := by
          simp [scan, scanFrom, hr]
        have hlen : rest.length < len := by
          simp only [List.length_cons] at hn
          omega
        rw [hs, List.flatMap_cons, ih rest.length hlen rest rfl]
        rfl
      | some found =>
        obtain ⟨a, n⟩ := found
        obtain ⟨hne, rfl, after, hafter⟩ := sound _ _ _ hr
        obtain ⟨d, more, hd⟩ := List.exists_cons_of_ne_nil hne
        rw [hd, List.cons_append] at hafter
        obtain ⟨rfl, rfl⟩ := List.cons.inj hafter
        have hs : scan recognise (c :: (more ++ after)) = .found a :: scan recognise after := by
          rw [scan, scanFrom, hr]
          simp [hd, scanFrom_eq_scan_drop]
        have hlen : after.length < len := by
          simp only [List.length_cons, List.length_append] at hn
          omega
        rw [hs, List.flatMap_cons, ih after.length hlen after rfl]
        simp [Piece.text, hd]

end ImportAlias
