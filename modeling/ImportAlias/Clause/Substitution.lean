import ImportAlias.Clause

/-!
# Putting new targets into a text

Substitution of targets in one pass over a text. Each clause is judged once, from left to right,
by an answer that may carry a state; what was put in is never looked at again.
-/
namespace ImportAlias

/-- What a pass made of a text: the new text if anything was put in, the number of clauses
replaced, and the targets left alone because they escape their closing quote. -/
structure Substitution where
  replaced? : Option Text
  count : Nat
  skipped : List Text
  deriving DecidableEq

namespace Substitution

def hasReplacement (s : Substitution) : Bool := s.replaced?.isSome

/-- The text after the pass, for a pass over `given`. -/
def result (s : Substitution) (given : Text) : Text := s.replaced?.getD given

end Substitution

inductive Verdict where
  | keep
  | skip
  | replace (new : Text)
  deriving DecidableEq

/-- A clause with what becomes of it. -/
structure Judged where
  clause : Clause
  verdict : Verdict

namespace Judged

def text (j : Judged) : Text :=
  match j.verdict with
  | .replace new => j.clause.literal.render new
  | _ => j.clause.text

def isReplaced (j : Judged) : Bool :=
  match j.verdict with
  | .replace _ => true
  | _ => false

def skipped? (j : Judged) : Option Text :=
  match j.verdict with
  | .skip => some j.clause.literal.target
  | _ => none

end Judged

section Pass
variable {σ : Type}

/-- An answer equal to the old target changes nothing. -/
def judge (answer : σ → Literal → Option Text × σ) (s : σ) (c : Clause) : Judged × σ :=
  if c.literal.isEscaped then (⟨c, .skip⟩, s)
  else match answer s c.literal with
    | (none, s') => (⟨c, .keep⟩, s')
    | (some new, s') => (⟨c, if new = c.literal.target then .keep else .replace new⟩, s')

def judgeAll (answer : σ → Literal → Option Text × σ) :
    σ → List (Piece Clause) → List (Piece Judged) × σ
  | s, [] => ([], s)
  | s, .plain c :: rest =>
    let (judged, s') := judgeAll answer s rest
    (.plain c :: judged, s')
  | s, .found c :: rest =>
    let (j, s₁) := judge answer s c
    let (judged, s₂) := judgeAll answer s₁ rest
    (.found j :: judged, s₂)

/-- Judged pieces put together again; a text in which nothing was replaced is given back. -/
def assemble (pieces : List (Piece Judged)) : Substitution :=
  let found := pieces.filterMap Piece.found?
  let count := found.countP Judged.isReplaced
  { replaced? := if count = 0 then none else some (pieces.flatMap (Piece.text Judged.text))
    count
    skipped := found.filterMap Judged.skipped? }

/-- Asks for the target of every clause that is not escaped, and puts the answers in. -/
def substitute (answer : σ → Literal → Option Text × σ) (s : σ) (given : Text) :
    Substitution × σ :=
  let (judged, s') := judgeAll answer s (scan Clause.recognise given)
  (assemble judged, s')

end Pass

end ImportAlias
