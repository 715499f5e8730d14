import ImportAlias.Error

/-!
# A file as a text

A file whose text is held in memory: where it is, how it is called below the root, and what it
held when it was read.
-/
namespace ImportAlias

structure Document where
  path : Path
  relative : Path
  text : Text
  deriving DecidableEq

namespace Document

/-- The path below the root; a path that is not below it is taken whole. -/
def relativeTo (root p : Path) : Path := (p.below? root).getD p

def load (t : Tree) (root p : Path) : Except Error Document :=
  match t.readFile p with
  | .error fault => .error (.read p fault)
  | .ok bytes =>
    match Utf8.decode? bytes with
    | none => .error (.notText p)
    | some text => .ok { path := p, relative := relativeTo root p, text }

/-- Writes a text unless it is the one that was read; the file itself is not looked at again.
Gives the place written to, if any, and the tree after that. -/
def save (d : Document) (t : Tree) (text : Text) : Except Error (Option Place × Tree) :=
  if text = d.text then .ok (none, t)
  else match t.writeFile d.path (Utf8.encode text) with
    | .ok (place, after) => .ok (some place, after)
    | .error fault => .error (.write d.path fault)

end Document

end ImportAlias
