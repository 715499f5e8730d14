import ImportAlias.Tree.Basic

/-!
# Where paths lead in a tree

Finding the entry that a path names, and reading, listing and writing it. Links on the way are
followed, forty of them at most; what happens at the end of the way is a matter of the aim.
-/
namespace ImportAlias

/-- Why a path could not be used. -/
inductive Fault where
  | notFound
  | notDirectory
  | isDirectory
  | tooLong
  | tooManyLinks
  | nullByte
  deriving DecidableEq

def Fault.message : Fault → Text
  | notFound => "No such file or directory (os error 2)".toList
  | notDirectory => "Not a directory (os error 20)".toList
  | isDirectory => "Is a directory (os error 21)".toList
  | tooLong => "File name too long (os error 36)".toList
  | nullByte => "file name contained an unexpected NUL byte".toList
  | tooManyLinks => "Too many levels of symbolic links (os error 40)".toList

namespace Tree

/-- Where a path leads: to an entry, or to a free place in a directory that exists. -/
inductive Spot where
  | taken (place : Place) (node : Node)
  | free (place : Place)
  deriving DecidableEq

/-- A directory on the way down and those above it, the last one first, each with what it holds. -/
abbrev Trail := List (Name × Folder)

namespace Trail

def folder (t : Tree) : Trail → Folder
  | [] => t.top
  | (_, inside) :: _ => inside

def place (trail : Trail) : Place := (trail.map Prod.fst).reverse

end Trail

/-- Goes down from `f` by names that lead to directories. -/
def enter : Folder → Place → Trail → Trail
  | _, [], trail => trail
  | f, name :: rest, trail =>
    match f.get? name with
    | some (.dir inside) => enter inside rest ((name, inside) :: trail)
    | _ => trail

def atCwd (t : Tree) : Trail := enter t.top t.cwd []

/-- What a path is looked up for. -/
inductive Aim where
  /-- The entry itself; a link is followed only if a slash comes after it. -/
  | inspect
  /-- What a link at the end leads to. -/
  | use
  /-- The same, for a file that may be new. -/
  | create
  deriving DecidableEq

def linkLimit : Nat := 40

/-- Goes on from a directory. A link hands the rest of the way to `follow`. No file can be created
under a name with slashes after it. -/
def descend (t : Tree) (aim : Aim) (follow : Trail → List Bytes → Except Fault Spot) :
    Trail → List Bytes → Except Fault Spot
  | trail, [] => .ok (.taken trail.place (.dir (trail.folder t)))
  | trail, part :: rest =>
    if Path.isTrivial part then descend t aim follow trail rest
    else if part = Path.dotDot then descend t aim follow (trail.drop 1) rest
    else if aim = .create && rest ≠ [] && rest.all (· = []) then .error .isDirectory
    else if !t.limits.admitsName part then .error .tooLong
    else match Name.of? part with
      | none => .error .notFound
      | some name =>
        match (trail.folder t).get? name with
        | none => if rest = [] then .ok (.free (trail.place ++ [name])) else .error .notFound
        | some (.dir inside) => descend t aim follow ((name, inside) :: trail) rest
        | some (.file content) =>
          if rest = [] then .ok (.taken (trail.place ++ [name]) (.file content))
          else .error .notDirectory
        | some (.link target) =>
          if rest = [] && aim = .inspect then
            .ok (.taken (trail.place ++ [name]) (.link target))
          else
            let start := if target.head? = some Path.slash then [] else trail
            follow start (splitOn Path.slash target ++ rest)

def descendWithLinks (t : Tree) (aim : Aim) : Nat → Trail → List Bytes → Except Fault Spot
  | 0 => descend t aim fun _ _ => .error .tooManyLinks
  | links + 1 => descend t aim (descendWithLinks t aim links)

/-- The empty path leads nowhere. -/
def locate (t : Tree) (aim : Aim) (p : Path) : Except Fault Spot :=
  if p.bytes = [] then .error .notFound
  else if p.bytes.contains 0 then .error .nullByte
  else if !t.limits.admitsPath p then .error .tooLong
  else
    let start := if p.isAbsolute then [] else t.atCwd
    descendWithLinks t aim linkLimit start (splitOn Path.slash p.bytes)

/-- What a path names. -/
def lookup (t : Tree) (aim : Aim) (p : Path) : Except Fault Node := do
  match ← t.locate aim p with
  | .taken _ node => pure node
  | .free _ => throw .notFound

def isDir (t : Tree) (p : Path) : Bool :=
  match t.lookup .use p with
  | .ok (.dir _) => true
  | _ => false

def readFile (t : Tree) (p : Path) : Except Fault Bytes := do
  match ← t.lookup .use p with
  | .file content => pure content
  | .dir _ => throw .isDirectory
  | .link _ => throw .tooManyLinks

/-- The entries of a directory, in the order of their names. -/
def listDir (t : Tree) (p : Path) : Except Fault (List (Name × Node)) := do
  match ← t.lookup .use p with
  | .dir inside => pure inside.toList
  | _ => throw .notDirectory

/-- Puts a content into the file that a path names, or into a new one at a free place, and tells
which place that is. -/
def writeFile (t : Tree) (p : Path) (content : Bytes) : Except Fault (Place × Tree) := do
  match ← t.locate .create p with
  | .taken place (.file _) => pure (place, t.put place (.file content))
  | .taken _ (.dir _) => throw .isDirectory
  | .taken _ (.link _) => throw .tooManyLinks
  | .free place => pure (place, t.put place (.file content))

end Tree

end ImportAlias
