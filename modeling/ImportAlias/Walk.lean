import ImportAlias.Error
import ImportAlias.Selection
import ImportAlias.Tree.Access

/-!
# The walk

The walk through a tree as a list of what is still to be visited. A directory is listed when its
turn comes, and its entries are then visited as they were at that moment: those that are ignored
and all links are left out, and the rest take the place of the directory, in the order of their
names.
-/
namespace ImportAlias

namespace Walk

inductive Item where
  /-- The root may be a link to a directory, and its own name is not looked at. -/
  | root (p : Path)
  | dir (p : Path)
  | file (p : Path)
  deriving DecidableEq

def visit? (s : Selection) (dir : Path) (name : Name) (node : Node) : Option Item :=
  let p := dir.child name.bytes
  if Selection.ignores s.ignored p then none
  else match node with
    | .dir _ => some (.dir p)
    | .file _ => if Selection.ofExtensions s.extensions p then some (.file p) else none
    | .link _ => none

def list (s : Selection) (t : Tree) (p : Path) : Except Error (List Item) :=
  match t.listDir p with
  | .ok entries => .ok (entries.filterMap fun (name, node) => visit? s p name node)
  | .error fault => .error (.walk p fault)

/-- The root spelled `-` stands for standard input and holds no files. -/
def isStandardInput (root : Path) : Bool := root.components = [.name [45]]

def openRoot (s : Selection) (t : Tree) (root : Path) : Except Error (List Item) :=
  if isStandardInput root then .ok []
  else match t.lookup .inspect root with
    | .error fault => .error (.walk root fault)
    | .ok (.dir _) => list s t root
    | .ok (.file _) =>
      .ok (if Selection.ofExtensions s.extensions root then [.file root] else [])
    | .ok (.link _) =>
      match t.lookup .use root with
      | .error fault => .error (.walk root fault)
      | .ok (.dir _) => list s t root
      | .ok _ => .ok []

/-- What an item stands for now; a file stands for itself. -/
def expand (s : Selection) (t : Tree) : Item → Except Error (List Item)
  | .root p => openRoot s t p
  | .dir p => list s t p
  | .file p => .ok [.file p]

/-- The files of a tree that does not change. A directory that cannot be listed is reported in its
place. Every step takes an item away or looks into one more directory. -/
def filesFrom (s : Selection) (t : Tree) : Nat → List Item → List (Except Error Path)
  | 0, _ => []
  | _ + 1, [] => []
  | fuel + 1, .file p :: rest => .ok p :: filesFrom s t fuel rest
  | fuel + 1, item :: rest =>
    match expand s t item with
    | .ok items => filesFrom s t fuel (items ++ rest)
    | .error e => .error e :: filesFrom s t fuel rest

/-- Enough steps to visit every entry of a tree once. -/
def budget (t : Tree) : Nat := t.top.size + 3

def files (s : Selection) (t : Tree) (root : Path) : Except Error (List (Except Error Path)) :=
  if t.isDir root then .ok (filesFrom s t (budget t) [.root root]) else .error (.rootMissing root)

end Walk

end ImportAlias
