import ImportAlias.Proofs.Tree.Shape

/-!
# The way down a path, part by part

What one part of a path does on the way down: it leads to another directory, it is a link whose
own parts come next, or it is where the way ends. Facts about a whole descent come from facts about
one hop by induction on the parts, and on the number of links that may still be followed. Where a
path leads is a matter of the shape of the tree, and a path that leads to a directory leads on to
what the directory holds.
-/
namespace ImportAlias

namespace Tree

inductive Hop where
  | on (trail : Trail)
  | follow (start : Trail) (parts : List Bytes)
  | stop (result : Except Fault Spot)

/-- The hop by a name, with `rest` still to come. -/
def hopBy (t : Tree) (aim : Aim) (trail : Trail) (name : Name) (rest : List Bytes) : Hop :=
  match (trail.folder t).get? name with
  | none => .stop (if rest = [] then .ok (.free (trail.place ++ [name])) else .error .notFound)
  | some (.dir inside) => .on ((name, inside) :: trail)
  | some (.file content) =>
    .stop (if rest = [] then .ok (.taken (trail.place ++ [name]) (.file content))
      else .error .notDirectory)
  | some (.link target) =>
    if rest = [] && aim = .inspect then .stop (.ok (.taken (trail.place ++ [name]) (.link target)))
    else .follow (if target.head? = some Path.slash then [] else trail) (splitOn Path.slash target)

def hop (t : Tree) (aim : Aim) (trail : Trail) (part : Bytes) (rest : List Bytes) : Hop :=
  if Path.isTrivial part then .on trail
  else if part = Path.dotDot then .on (trail.drop 1)
  else if aim = .create && rest ≠ [] && rest.all (· = []) then .stop (.error .isDirectory)
  else if !t.limits.admitsName part then .stop (.error .tooLong)
  else match Name.of? part with
    | none => .stop (.error .notFound)
    | some name => hopBy t aim trail name rest

theorem descend_cons (t : Tree) (aim : Aim) (follow : Trail → List Bytes → Except Fault Spot)
    (trail : Trail) (part : Bytes) (rest : List Bytes) :
    t.descend aim follow trail (part :: rest) =
      match t.hop aim trail part rest with
      | .on next => t.descend aim follow next rest
      | .follow start parts => follow start (parts ++ rest)
      | .stop result => result := by
  rw [descend, hop]
  split
  · rfl
  · split
    · rfl
    · split
      · rfl
      · split
        · rfl
        · cases Name.of? part with
          | none => rfl
          | some name =>
            dsimp only [hopBy]
            cases (trail.folder t).get? name with
            | none => rfl
            | some node =>
              cases node with
              | dir inside => rfl
              | file content => rfl
              | link target =>
                dsimp only
                split <;> rfl

/-- What a link on the way leads to, if so many may still be followed. -/
def following (t : Tree) (aim : Aim) : Nat → Trail → List Bytes → Except Fault Spot
  | 0 => fun _ _ => .error .tooManyLinks
  | links + 1 => t.descendWithLinks aim links

theorem descendWithLinks_eq (t : Tree) (aim : Aim) (links : Nat) :
    t.descendWithLinks aim links = t.descend aim (t.following aim links) := by
  cases links <;> rfl

section Shape

def Spot.shape : Spot → Spot
  | taken place node => taken place node.shape
  | free place => free place

def Trail.shape (trail : Trail) : Trail := trail.map fun (name, inside) => (name, inside.shape)

def Hop.shape : Hop → Hop
  | on trail => on trail.shape
  | follow start parts => follow start.shape parts
  | stop result => stop (result.map Spot.shape)

theorem Trail.folder_shape (t : Tree) (trail : Trail) :
    trail.shape.folder t.shape = (trail.folder t).shape := by
  cases trail <;> rfl

theorem Trail.place_shape (trail : Trail) : trail.shape.place = trail.place := by
  simp [place, shape]

theorem enter_shape (f : Folder) (place : Place) (trail : Trail) :
    enter f.shape place trail.shape = (enter f place trail).shape := by
  induction place generalizing f trail with
  | nil => rfl
  | cons name rest ih =>
    rw [enter, enter, Folder.get?_shape]
    cases f.get? name with
    | none => rfl
    | some node =>
      cases node with
      | file content => rfl
      | link target => rfl
      | dir inside => exact ih inside ((name, inside) :: trail)

theorem hopBy_shape (t : Tree) (aim : Aim) (trail : Trail) (name : Name) (rest : List Bytes) :
    t.shape.hopBy aim trail.shape name rest = (t.hopBy aim trail name rest).shape := by
  rw [hopBy, hopBy, Trail.folder_shape, Trail.place_shape, Folder.get?_shape]
  cases (trail.folder t).get? name with
  | none =>
    dsimp only [Option.map_none]
    split <;> rfl
  | some node =>
    cases node with
    | dir inside => rfl
    | file content =>
      dsimp only [Option.map_some, Node.shape]
      split <;> rfl
    | link target =>
      dsimp only [Option.map_some, Node.shape]
      split
      · rfl
      · split <;> rfl

theorem hop_shape (t : Tree) (aim : Aim) (trail : Trail) (part : Bytes) (rest : List Bytes) :
    t.shape.hop aim trail.shape part rest = (t.hop aim trail part rest).shape := by
  have hlimits : t.shape.limits = t.limits := rfl
  have hup : trail.shape.drop 1 = Trail.shape (trail.drop 1) := by simp [Trail.shape]
  rw [hop, hop, hlimits, hup]
  split
  · rfl
  · split
    · rfl
    · split
      · rfl
      · split
        · rfl
        · cases Name.of? part with
          | none => rfl
          | some name => exact hopBy_shape t aim trail name rest

theorem descend_shape (t : Tree) (aim : Aim)
    {follow follow' : Trail → List Bytes → Except Fault Spot}
    (hfollow : ∀ trail parts,
      follow' (Trail.shape trail) parts = (follow trail parts).map Spot.shape)
    (trail : Trail) (parts : List Bytes) :
    t.shape.descend aim follow' trail.shape parts =
      (t.descend aim follow trail parts).map Spot.shape := by
  induction parts generalizing trail with
  | nil =>
    rw [descend, descend, Trail.folder_shape, Trail.place_shape]
    rfl
  | cons part rest ih =>
    rw [descend_cons, descend_cons, hop_shape]
    cases t.hop aim trail part rest with
    | on next => exact ih next
    | follow start parts => exact hfollow start (parts ++ rest)
    | stop result => rfl

theorem descendWithLinks_shape (t : Tree) (aim : Aim) (links : Nat) (trail : Trail)
    (parts : List Bytes) :
    t.shape.descendWithLinks aim links trail.shape parts =
      (t.descendWithLinks aim links trail parts).map Spot.shape := by
  induction links generalizing trail parts with
  | zero => exact descend_shape t aim (fun _ _ => rfl) trail parts
  | succ links ih => exact descend_shape t aim ih trail parts

theorem locate_shape (t : Tree) (aim : Aim) (p : Path) :
    t.shape.locate aim p = (t.locate aim p).map Spot.shape := by
  have hcwd : t.shape.atCwd = t.atCwd.shape := enter_shape t.top t.cwd []
  have hlimits : t.shape.limits = t.limits := rfl
  rw [locate, locate, hcwd, hlimits]
  split
  · rfl
  · split
    · rfl
    · split
      · rfl
      · dsimp only
        split
        · exact descendWithLinks_shape t aim linkLimit [] _
        · exact descendWithLinks_shape t aim linkLimit t.atCwd _

theorem lookup_shape (t : Tree) (aim : Aim) (p : Path) :
    t.shape.lookup aim p = (t.lookup aim p).map Node.shape := by
  rw [lookup, lookup, locate_shape]
  cases t.locate aim p with
  | error fault => rfl
  | ok spot => cases spot <;> rfl

/-- In trees of one shape a path leads to the same place. -/
theorem locate_eq_of_shape_eq {t t' : Tree} (h : t.shape = t'.shape) (aim : Aim) (p : Path) :
    (t.locate aim p).map Spot.shape = (t'.locate aim p).map Spot.shape := by
  rw [← locate_shape, ← locate_shape, h]

end Shape

end Tree

end ImportAlias
