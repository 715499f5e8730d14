import ImportAlias.Clause.Substitution
import ImportAlias.Pattern.Parser
import ImportAlias.Pattern.Search
import ImportAlias.Redirect.Legacy

/-!
# Redirection

Clauses are sent to one shared package. What is to be redirected is said by finders, which are
applied one after the other, each to what the ones before it made. The mark that a finder gives for
a clause, its opening quote, is put on both sides of the shared target.
-/
namespace ImportAlias

inductive Finder where
  | legacy (l : Legacy)
  | literal (t : Text)
  | written (m : Pattern.Machine)

namespace Finder

/-- What is given for a find without a group, or whose group took no part. -/
def plainMark : Text := ['\'']

/-- Recognises a given text. -/
def recogniseLiteral (t s : Text) : Option (Text × Nat) :=
  (restAfter? t s).map fun _ => (plainMark, t.length)

/-- A written pattern gives what its group took. -/
def pieces (s : Text) : Finder → List (Piece Text)
  | legacy l => (scan l.recognise s).map (Piece.map fun q => [q.char])
  | literal t => scan (recogniseLiteral t) s
  | written m => (m.pieces s).map (Piece.map fun group? => group?.getD plainMark)

/-- A pattern that is one literal is looked for as it is. -/
def ofPattern : Pattern → Finder
  | .literal t => literal t
  | p => written (.ofPattern p)

def parse (s : Text) : Except Pattern.Flaw Finder := (Pattern.parse s).map ofPattern

end Finder

structure Redirect where
  finders : List Finder
  target : Text

namespace Redirect

def legacy (target : Text) : Redirect := { finders := Legacy.all.map .legacy, target }

def parse (patterns : List Text) (target : Text) : Except Pattern.Flaw Redirect := do
  let finders ← patterns.mapM Finder.parse
  pure { finders, target }

def render (target mark : Text) : Text := "from ".toList ++ mark ++ target ++ mark

/-- Puts the target in place of each find; nothing is given back if there is none. -/
def replaceAll (target : Text) (f : Finder) (s : Text) : Option Text × Nat :=
  let pieces := f.pieces s
  match (pieces.filterMap Piece.found?).length with
  | 0 => (none, 0)
  | count => (some (pieces.flatMap (Piece.text (render target))), count)

def replaceEach (target : Text) : List Finder → Text → Option Text × Nat
  | [], _ => (none, 0)
  | f :: rest, s =>
    match replaceAll target f s with
    | (none, _) => replaceEach target rest s
    | (some next, n) =>
      let (last?, m) := replaceEach target rest next
      (some (last?.getD next), n + m)

def apply (r : Redirect) (s : Text) : Substitution :=
  let (replaced?, count) := replaceEach r.target r.finders s
  { replaced?, count, skipped := [] }

end Redirect

end ImportAlias
