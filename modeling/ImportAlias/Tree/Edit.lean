import ImportAlias.Tree.Access

/-!
# Changes from outside

Changes made to a tree from outside: an entry is put somewhere, or taken away. What was there
before goes, directories with all that they hold, and missing parents are made. A link at the end
of the path is replaced, not followed.
-/
namespace ImportAlias

structure Edit where
  path : Path
  /-- The new entry, or `none` to take the old one away. -/
  entry : Option Entry

namespace Edit

/-- The directory reached by parts from `here`, making those that are missing. -/
def makeDirs : Tree → Place → List Bytes → Tree × Place
  | t, here, [] => (t, here)
  | t, here, part :: rest =>
    match Name.of? part with
    | none => makeDirs t (if part = Path.dotDot then here.dropLast else here) rest
    | some name =>
      let next := here ++ [name]
      match t.entryAt next with
      | none => makeDirs (t.put next .dir) next rest
      | some (.link _) =>
        match t.descendWithLinks .use Tree.linkLimit (Tree.enter t.top here []) [part] with
        | .ok (.taken place _) => makeDirs t place rest
        | _ => makeDirs t next rest
      | some _ => makeDirs t next rest

/-- Puts an entry at a place and tells where something changed; a directory that is there already
stays. -/
def putAt (t : Tree) (place : Place) (entry : Entry) : Tree × Option Place :=
  if entry = .dir && t.entryAt place = some .dir then (t, none) else (t.put place entry, some place)

/-- The tree after an edit, and the place whose entry was put, replaced or taken away. -/
def apply (e : Edit) (t : Tree) : Tree × Option Place :=
  match e.entry with
  | none =>
    match t.locate .inspect e.path with
    | .ok (.taken place _) => (t.remove place, some place)
    | _ => (t, none)
  | some entry =>
    let start := if e.path.isAbsolute then [] else t.cwd
    let parts := (splitOn Path.slash e.path.bytes).filter (!Path.isTrivial ·)
    match parts.getLast?.bind Name.of? with
    | none => (t, none)
    | some last =>
      let (made, dir) := makeDirs t start parts.dropLast
      putAt made (dir ++ [last]) entry

end Edit

end ImportAlias
