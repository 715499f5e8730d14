import ImportAlias.Tree.Name

/-!
# Folders

What a directory holds: files, links and directories under names that rise from entry to entry.
Changing what stands under one name leaves the other names alone and keeps the order.
-/
namespace ImportAlias

inductive Folder where
  | empty
  | file (name : Name) (content : Bytes) (rest : Folder)
  | link (name : Name) (target : Bytes) (rest : Folder)
  | dir (name : Name) (inside rest : Folder)
  deriving DecidableEq

/-- What stands under a name. -/
inductive Node where
  | file (content : Bytes)
  | link (target : Bytes)
  | dir (inside : Folder)
  deriving DecidableEq

/-- The names that lead from a directory down to an entry below it. -/
abbrev Place := List Name

namespace Folder

/-- A folder with one entry more at its start. -/
def cons (name : Name) : Node → Folder → Folder
  | .file content, rest => file name content rest
  | .link target, rest => link name target rest
  | .dir inside, rest => dir name inside rest

def toList : Folder → List (Name × Node)
  | empty => []
  | file name content rest => (name, .file content) :: rest.toList
  | link name target rest => (name, .link target) :: rest.toList
  | dir name inside rest => (name, .dir inside) :: rest.toList

/-- The number of entries at all depths. -/
def size : Folder → Nat
  | empty => 0
  | file _ _ rest | link _ _ rest => rest.size + 1
  | dir _ inside rest => inside.size + rest.size + 1

def get? (name : Name) : Folder → Option Node
  | empty => none
  | file n content rest => if n = name then some (.file content) else rest.get? name
  | link n target rest => if n = name then some (.link target) else rest.get? name
  | dir n inside rest => if n = name then some (.dir inside) else rest.get? name

/-- Puts a node under a name, in its place in the order or instead of what was there. -/
def insert (name : Name) (node : Node) : Folder → Folder
  | empty => cons name node empty
  | file n content rest =>
    if n = name then cons name node rest
    else if name < n then cons name node (file n content rest)
    else file n content (rest.insert name node)
  | link n target rest =>
    if n = name then cons name node rest
    else if name < n then cons name node (link n target rest)
    else link n target (rest.insert name node)
  | dir n inside rest =>
    if n = name then cons name node rest
    else if name < n then cons name node (dir n inside rest)
    else dir n inside (rest.insert name node)

def erase (name : Name) : Folder → Folder
  | empty => empty
  | file n content rest => if n = name then rest else file n content (rest.erase name)
  | link n target rest => if n = name then rest else link n target (rest.erase name)
  | dir n inside rest => if n = name then rest else dir n inside (rest.erase name)

/-- What stands at a place; the empty place is the folder itself. -/
def find? : Place → Folder → Option Node
  | [], f => some (.dir f)
  | name :: rest, f =>
    match f.get? name with
    | some (.dir inside) => find? rest inside
    | some node => if rest = [] then some node else none
    | none => none

/-- Changes the folder at a place, if there is one. -/
def modify (change : Folder → Folder) : Place → Folder → Folder
  | [], f => change f
  | name :: rest, f =>
    match f.get? name with
    | some (.dir inside) => f.insert name (.dir (modify change rest inside))
    | _ => f

/-- All entries below a folder with their places, each directory before what it holds. `above`
leads to the folder, the last name first. -/
def allBelow (above : List Name) : Folder → List (Place × Node)
  | empty => []
  | file name content rest => ((name :: above).reverse, .file content) :: rest.allBelow above
  | link name target rest => ((name :: above).reverse, .link target) :: rest.allBelow above
  | dir name inside rest =>
    ((name :: above).reverse, .dir inside) :: inside.allBelow (name :: above) ++ rest.allBelow above

def names (f : Folder) : List Name := f.toList.map Prod.fst

/-- Names rise strictly, in the folder and in all folders below it. -/
def Ordered : Folder → Prop
  | empty => True
  | file name _ rest | link name _ rest => (∀ n ∈ rest.names, name < n) ∧ rest.Ordered
  | dir name inside rest => (∀ n ∈ rest.names, name < n) ∧ inside.Ordered ∧ rest.Ordered

end Folder

def Node.Ordered : Node → Prop
  | dir inside => inside.Ordered
  | _ => True

namespace Folder

theorem ordered_cons {name : Name} {node : Node} {rest : Folder} :
    (cons name node rest).Ordered ↔
      (∀ n ∈ rest.names, name < n) ∧ node.Ordered ∧ rest.Ordered := by
  cases node <;> simp [cons, Ordered, Node.Ordered]

@[simp] theorem names_cons (name : Name) (node : Node) (rest : Folder) :
    (cons name node rest).names = name :: rest.names := by
  cases node <;> rfl

@[simp] theorem get?_cons (name other : Name) (node : Node) (rest : Folder) :
    (cons name node rest).get? other = if name = other then some node else rest.get? other := by
  cases node <;> rfl

theorem insert_cons (name n : Name) (node first : Node) (rest : Folder) :
    (cons n first rest).insert name node =
      if n = name then cons name node rest
      else if name < n then cons name node (cons n first rest)
      else cons n first (rest.insert name node) := by
  cases first <;> rfl

theorem erase_cons (name n : Name) (first : Node) (rest : Folder) :
    (cons n first rest).erase name =
      if n = name then rest else cons n first (rest.erase name) := by
  cases first <;> rfl

/-- Induction on the entries of one folder. -/
theorem cons_induction {motive : Folder → Prop} (empty : motive empty)
    (cons : ∀ name node rest, motive rest → motive (cons name node rest)) (f : Folder) :
    motive f := by
  induction f with
  | empty => exact empty
  | file name content rest ih => exact cons name (.file content) rest ih
  | link name target rest ih => exact cons name (.link target) rest ih
  | dir name inside rest _ ih => exact cons name (.dir inside) rest ih

theorem mem_names_insert {name n : Name} {node : Node} {f : Folder}
    (h : n ∈ (f.insert name node).names) : n = name ∨ n ∈ f.names := by
  induction f using cons_induction with
  | empty => simpa [insert] using h
  | cons m first rest ih =>
    rw [insert_cons] at h
    split at h
    · simp only [names_cons, List.mem_cons] at h ⊢
      exact h.imp id .inr
    · split at h
      · simpa using h
      · simp only [names_cons, List.mem_cons] at h ⊢
        rcases h with rfl | h
        · exact .inr (.inl rfl)
        · exact (ih h).imp id .inr

theorem mem_names_erase {name n : Name} {f : Folder} (h : n ∈ (f.erase name).names) :
    n ∈ f.names := by
  induction f using cons_induction with
  | empty => simpa [erase] using h
  | cons m first rest ih =>
    rw [erase_cons] at h
    split at h
    · simp [h]
    · simp only [names_cons, List.mem_cons] at h ⊢
      exact h.imp id ih

theorem ordered_insert {name : Name} {node : Node} {f : Folder} (hf : f.Ordered)
    (hn : node.Ordered) : (f.insert name node).Ordered := by
  induction f using cons_induction with
  | empty => exact ordered_cons.2 ⟨by simp [names, toList], hn, trivial⟩
  | cons m first rest ih =>
    obtain ⟨hlt, hfirst, hrest⟩ := ordered_cons.1 hf
    rw [insert_cons]
    split
    · rename_i h
      subst h
      exact ordered_cons.2 ⟨hlt, hn, hrest⟩
    · rename_i hne
      split
      · rename_i hbefore
        refine ordered_cons.2 ⟨fun n h => ?_, hn, hf⟩
        rw [names_cons, List.mem_cons] at h
        rcases h with rfl | h
        · exact hbefore
        · exact Name.lt_trans hbefore (hlt n h)
      · rename_i hnot
        refine ordered_cons.2 ⟨fun n h => ?_, hfirst, ih hrest⟩
        rcases mem_names_insert h with rfl | h
        · exact Name.lt_of_not_lt_of_ne hnot hne
        · exact hlt n h

theorem ordered_erase {name : Name} {f : Folder} (hf : f.Ordered) : (f.erase name).Ordered := by
  induction f using cons_induction with
  | empty => exact hf
  | cons m first rest ih =>
    obtain ⟨hlt, hfirst, hrest⟩ := ordered_cons.1 hf
    rw [erase_cons]
    split
    · exact hrest
    · exact ordered_cons.2 ⟨fun n h => hlt n (mem_names_erase h), hfirst, ih hrest⟩

theorem ordered_get? {name : Name} {node : Node} {f : Folder} (hf : f.Ordered)
    (h : f.get? name = some node) : node.Ordered := by
  induction f using cons_induction with
  | empty => cases h
  | cons m first rest ih =>
    obtain ⟨_, hfirst, hrest⟩ := ordered_cons.1 hf
    rw [get?_cons] at h
    split at h
    · cases h; exact hfirst
    · exact ih hrest h

theorem ordered_modify {change : Folder → Folder}
    (hchange : ∀ f : Folder, f.Ordered → (change f).Ordered) (place : Place) {f : Folder}
    (hf : f.Ordered) : (f.modify change place).Ordered := by
  induction place generalizing f with
  | nil => exact hchange f hf
  | cons name rest ih =>
    rw [modify]
    split
    · rename_i inside h
      have hinside : inside.Ordered := ordered_get? hf h
      exact ordered_insert hf (ih hinside)
    · exact hf

@[simp] theorem get?_insert_self (name : Name) (node : Node) (f : Folder) :
    (f.insert name node).get? name = some node := by
  induction f using cons_induction with
  | empty => simp [insert]
  | cons m first rest ih =>
    rw [insert_cons]
    split
    · simp
    · split
      · simp
      · rename_i hne _
        simp [hne, ih]

theorem get?_insert_of_ne {name other : Name} (node : Node) (f : Folder) (h : other ≠ name) :
    (f.insert name node).get? other = f.get? other := by
  induction f using cons_induction with
  | empty => simp [insert, get?, Ne.symm h]
  | cons m first rest ih =>
    rw [insert_cons]
    split
    · rename_i hm
      simp [hm, Ne.symm h]
    · split
      · simp [Ne.symm h]
      · simp [ih]

end Folder

end ImportAlias
