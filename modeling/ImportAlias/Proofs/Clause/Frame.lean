import ImportAlias.Proofs.Clause.Extraction
import Mathlib.Data.List.Basic

/-!
# What a pass changes, and what it asks

A text is its clauses with the gaps before, between and behind them. A pass leaves the gaps as they
are. Each clause gets its new target, if it gets one, from an answer that is asked once about every
literal that is not escaped, from left to right, and whose state is then what the earlier questions
have left (`stateAfter`). What has been put in is not looked at again, whatever it is.
-/
namespace ImportAlias

section Gaps
variable {α β : Type}

/-- What stands before, between and behind the finds: one text more than there are finds. -/
def gaps : List (Piece α) → List Text
  | [] => [[]]
  | .plain c :: rest => (gaps rest).modifyHead (c :: ·)
  | .found _ :: rest => [] :: gaps rest

/-- Gaps and parts by turns; a gap comes first. -/
def interleave : List Text → List Text → Text
  | [], _ => []
  | gap :: _, [] => gap
  | gap :: gaps, part :: parts => gap ++ part ++ interleave gaps parts

theorem length_gaps (pieces : List (Piece α)) :
    (gaps pieces).length = (pieces.filterMap Piece.found?).length + 1 := by
  induction pieces with
  | nil => rfl
  | cons piece rest ih =>
    cases piece with
    | plain c => simpa [gaps] using ih
    | found a => simpa [gaps] using ih

theorem gaps_map (f : α → β) (pieces : List (Piece α)) :
    gaps (pieces.map (Piece.map f)) = gaps pieces := by
  induction pieces with
  | nil => rfl
  | cons piece rest ih =>
    cases piece with
    | plain c => simp [gaps, Piece.map, ih]
    | found a => simp [gaps, Piece.map, ih]

theorem interleave_modifyHead {gaps : List Text} (hne : gaps ≠ []) (c : Char) (parts : List Text) :
    interleave (gaps.modifyHead (c :: ·)) parts = c :: interleave gaps parts := by
  obtain ⟨gap, rest, rfl⟩ := List.exists_cons_of_ne_nil hne
  cases parts with
  | nil => rfl
  | cons part more => rfl

/-- Pieces put side by side are their gaps with the finds between them. -/
theorem interleave_gaps (render : α → Text) (pieces : List (Piece α)) :
    interleave (gaps pieces) ((pieces.filterMap Piece.found?).map render) =
      pieces.flatMap (Piece.text render) := by
  induction pieces with
  | nil => rfl
  | cons piece rest ih =>
    cases piece with
    | plain c =>
      have hne : gaps rest ≠ [] := by
        intro hnil
        have hlen := length_gaps rest
        rw [hnil] at hlen
        cases hlen
      have hhead := interleave_modifyHead hne c ((rest.filterMap Piece.found?).map render)
      rw [ih] at hhead
      exact hhead
    | found a => exact congrArg (render a ++ ·) ih

end Gaps

/-- What stands in the place of a clause after a pass. -/
def Clause.replacedBy (c : Clause) : Option Text → Text
  | some new => c.literal.render new
  | none => c.text

section Pass
variable {σ : Type} (answer : σ → Literal → Option Text × σ)

section Judge
variable {answer} {s : σ} {c : Clause}

theorem text_judge : (judge answer s c).1.text = c.replacedBy (c.retarget? answer s) := by
  cases h : c.literal.isEscaped with
  | true => simp [judge_of_isEscaped h, Clause.retarget?, h, Judged.text, Clause.replacedBy]
  | false =>
    rw [judge_of_not_isEscaped h]
    cases c.retarget? answer s <;> rfl

end Judge

/-! ## All clauses -/

end Pass

-- What is put in looks like two clauses, and the answer is still asked only once.
example :
    let answer := fun (calls : Nat) (_ : Literal) => (some "./b' from './c".toList, calls + 1)
    (substitute answer 0 "x from './a'".toList).2 = 1 := by
  decide

end ImportAlias
