import ImportAlias.Path
import ImportAlias.Target.Anchor

/-!
# Resolving a target

Resolving a target against the directory of the file that imports it. Empty and `.` segments
vanish, a name is taken back by a `..` after it, and a `..` with no name before it stays.
-/
namespace ImportAlias.Target

def here : Text := ['.']

def up : Text := ['.', '.']

/-- Adds a segment to a resolved path that is held with its last segment first. -/
def push (stack : List Text) (segment : Text) : List Text :=
  if segment = [] || segment = here then stack
  else if segment = up then
    match stack with
    | [] => [up]
    | last :: rest => if last = up then up :: stack else rest
  else segment :: stack

def normalize (segments : List Text) : List Text :=
  (segments.foldl push []).reverse

/-- The segments of the importing file's directory; a file without one is at the top. -/
def directorySegments (importer : Path) : List Text :=
  splitOn '/' ((importer.parent?.map Path.display).getD [])

def spell : List Text → Text
  | [] => here
  | segments => joinWith '/' segments

/-- The place that `target` means in the file `importer`, relative to where `importer` is. -/
def resolve (importer : Path) (target : Text) : Text :=
  spell (normalize (directorySegments importer ++ splitOn '/' target))

def resolveWithAlias? (importAlias : Text) (importer : Path) (target : Text) : Option Text :=
  if isRelative target then some (importAlias ++ resolve importer target) else none

end ImportAlias.Target
