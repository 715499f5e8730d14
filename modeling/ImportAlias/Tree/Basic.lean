import ImportAlias.Tree.Folder

/-!
# File trees

A file tree: the folder at its top, the working directory, and how long names and paths may be.
`entryAt` is the view of a tree as a table from places to entries; a change at one place is seen
there and at the places below it, and nowhere else.
-/
namespace ImportAlias

/-- What can stand at a place, for a directory without what it holds. -/
inductive Entry where
  | file (content : Bytes)
  | dir
  | link (target : Bytes)
  deriving DecidableEq

/-- A directory starts empty. -/
def Entry.node : Entry → Node
  | file content => .file content
  | dir => .dir .empty
  | link target => .link target

def Node.entry : Node → Entry
  | file content => .file content
  | dir _ => .dir
  | link target => .link target

/-- How many bytes a name and a path may have; `none` sets no bound. -/
structure Limits where
  name? : Option Nat := none
  path? : Option Nat := none
  deriving DecidableEq

namespace Limits

/-- The bounds that file systems usually set. -/
def usual : Limits := { name? := some 255, path? := some 4095 }

def admitsName (l : Limits) (b : Bytes) : Bool := l.name?.all (b.length ≤ ·)

def admitsPath (l : Limits) (p : Path) : Bool := l.path?.all (p.bytes.length ≤ ·)

end Limits

structure Tree where
  /-- The working directory, from which relative paths start. -/
  cwd : Place
  limits : Limits
  top : Folder
  ordered : top.Ordered

theorem Entry.ordered_node (e : Entry) : e.node.Ordered := by
  cases e <;> trivial

namespace Folder

/-- Folders that hold one directory each, along a place. -/
def chain : Place → Folder
  | [] => empty
  | name :: rest => dir name (chain rest) empty

theorem ordered_chain (place : Place) : (chain place).Ordered := by
  induction place with
  | nil => trivial
  | cons name rest ih => exact ⟨by simp [names, toList], ih, trivial⟩

def entryAt (place : Place) (f : Folder) : Option Entry := (f.find? place).map Node.entry

theorem entryAt_cons (name : Name) (rest : Place) (f : Folder) :
    f.entryAt (name :: rest) =
      match f.get? name with
      | some (.dir inside) => inside.entryAt rest
      | some node => if rest = [] then some node.entry else none
      | none => none := by
  rw [entryAt, find?]
  cases f.get? name with
  | none => rfl
  | some node =>
    cases node with
    | dir inside => rfl
    | file content => by_cases h : rest = [] <;> simp [h]
    | link target => by_cases h : rest = [] <;> simp [h]

theorem entryAt_modify_insert_of_not_isPrefix {dir other : Place} {name : Name} (node : Node)
    (f : Folder) (h : ¬ dir ++ [name] <+: other) :
    (f.modify (insert name node) dir).entryAt other = f.entryAt other := by
  induction dir generalizing f other with
  | nil =>
    cases other with
    | nil => rfl
    | cons n rest =>
      have hn : n ≠ name := by
        rintro rfl
        exact h ⟨rest, rfl⟩
      rw [modify, entryAt_cons, entryAt_cons, get?_insert_of_ne node f hn]
  | cons d dir ih =>
    rw [modify]
    split
    · rename_i inside hinside
      cases other with
      | nil => rfl
      | cons n rest =>
        by_cases hn : n = d
        · subst hn
          have hrest : ¬ dir ++ [name] <+: rest := by
            rintro ⟨more, rfl⟩
            exact h ⟨more, rfl⟩
          rw [entryAt_cons, entryAt_cons, get?_insert_self, hinside]
          exact ih inside hrest
        · rw [entryAt_cons, entryAt_cons, get?_insert_of_ne _ f hn]
    · rfl

theorem find?_modify_insert_self {dir : Place} {name : Name} {node : Node} {f inside : Folder}
    (h : f.find? dir = some (.dir inside)) :
    (f.modify (insert name node) dir).find? (dir ++ [name]) = some node := by
  induction dir generalizing f with
  | nil =>
    rw [modify, List.nil_append, find?, get?_insert_self]
    cases node <;> rfl
  | cons d dir ih =>
    rw [find?] at h
    rw [modify, List.cons_append]
    split at h
    · rename_i inner hinner
      rw [hinner, find?, get?_insert_self]
      exact ih h
    · rename_i other hother _
      split at h
      · cases h
        exact (hother inside rfl).elim
      · cases h
    · cases h

end Folder

namespace Tree

def find? (t : Tree) (place : Place) : Option Node := t.top.find? place

def entryAt (t : Tree) (place : Place) : Option Entry := t.top.entryAt place

/-- Changes the folder that holds a place. -/
def change (t : Tree) (place : Place) (f : Name → Folder → Folder)
    (h : ∀ name folder, folder.Ordered → (f name folder).Ordered) : Tree :=
  match place.getLast? with
  | none => t
  | some name =>
    { cwd := t.cwd
      limits := t.limits
      top := t.top.modify (f name) place.dropLast
      ordered := Folder.ordered_modify (h name) place.dropLast t.ordered }

/-- Puts an entry at a place in a directory that is there. -/
def put (t : Tree) (place : Place) (e : Entry) : Tree :=
  t.change place (fun name => Folder.insert name e.node) fun _ _ h =>
    Folder.ordered_insert h e.ordered_node

/-- Takes away an entry with all that it holds. -/
def remove (t : Tree) (place : Place) : Tree :=
  t.change place Folder.erase fun _ _ h => Folder.ordered_erase h

/-- A tree that holds nothing but its working directory. -/
def empty (limits : Limits) (cwd : Place) : Tree where
  cwd := cwd
  limits := limits
  top := Folder.chain cwd
  ordered := Folder.ordered_chain cwd

def spell (names : List Name) : Bytes := joinWith Path.slash (names.map Name.bytes)

/-- Everything below a directory, by the names that lead there and in the order of the paths'
bytes. -/
def allBelow (t : Tree) (dir : Place) : List (Place × Node) :=
  match t.find? dir with
  | some (.dir inside) =>
    let spelled := (inside.allBelow []).map fun (place, node) => (spell place, place, node)
    (spelled.mergeSort fun a b => a.1 ≤ b.1).map Prod.snd
  | _ => []

/-- The path of the working directory. -/
def cwdPath (t : Tree) : Path := ⟨Path.slash :: spell t.cwd⟩

theorem top_put (t : Tree) (dir : Place) (name : Name) (e : Entry) :
    (t.put (dir ++ [name]) e).top = t.top.modify (Folder.insert name e.node) dir := by
  simp [put, change]

theorem find?_put_self {t : Tree} {dir : Place} {name : Name} {inside : Folder} (e : Entry)
    (h : t.find? dir = some (.dir inside)) :
    (t.put (dir ++ [name]) e).find? (dir ++ [name]) = some e.node := by
  rw [find?, top_put]
  exact Folder.find?_modify_insert_self h

/-- A change at one place leaves every place that is not below it as it was. -/
theorem entryAt_put_of_not_isPrefix (t : Tree) {place other : Place} (e : Entry)
    (h : ¬ place <+: other) : (t.put place e).entryAt other = t.entryAt other := by
  rcases List.eq_nil_or_concat place with rfl | ⟨dir, name, rfl⟩
  · exact absurd List.nil_prefix h
  · rw [List.concat_eq_append] at h ⊢
    rw [entryAt, top_put]
    exact Folder.entryAt_modify_insert_of_not_isPrefix e.node t.top h

end Tree

end ImportAlias
