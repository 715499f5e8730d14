import ImportAlias.Tree.Access

/-!
# The shape of a tree

The shape of a tree is what is left of it when every file is empty: names, directories and links.
Putting a content into a file that is there keeps the shape, and changes what stands at no other
place.
-/
namespace ImportAlias

def Folder.shape : Folder → Folder
  | empty => empty
  | file name _ rest => file name [] rest.shape
  | link name target rest => link name target rest.shape
  | dir name inside rest => dir name inside.shape rest.shape

def Node.shape : Node → Node
  | file _ => file []
  | link target => link target
  | dir inside => dir inside.shape

namespace Folder

@[simp] theorem shape_cons (name : Name) (node : Node) (rest : Folder) :
    (cons name node rest).shape = cons name node.shape rest.shape := by
  cases node <;> rfl

theorem toList_cons (name : Name) (node : Node) (rest : Folder) :
    (cons name node rest).toList = (name, node) :: rest.toList := by
  cases node <;> rfl

theorem toList_shape (f : Folder) :
    f.shape.toList = f.toList.map fun (name, node) => (name, node.shape) := by
  induction f using cons_induction with
  | empty => rfl
  | cons name node rest ih => simp [toList_cons, ih]

@[simp] theorem names_shape (f : Folder) : f.shape.names = f.names := by
  rw [names, toList_shape, List.map_map]
  rfl

@[simp] theorem size_shape (f : Folder) : f.shape.size = f.size := by
  induction f with
  | empty => rfl
  | file name content rest ih => simp [shape, size, ih]
  | link name target rest ih => simp [shape, size, ih]
  | dir name inside rest ih_inside ih => simp [shape, size, ih_inside, ih]

theorem ordered_shape {f : Folder} (hf : f.Ordered) : f.shape.Ordered := by
  induction f with
  | empty => trivial
  | file name content rest ih =>
    obtain ⟨hlt, hrest⟩ := hf
    exact ⟨by simpa using hlt, ih hrest⟩
  | link name target rest ih =>
    obtain ⟨hlt, hrest⟩ := hf
    exact ⟨by simpa using hlt, ih hrest⟩
  | dir name inside rest ih_inside ih =>
    obtain ⟨hlt, hinside, hrest⟩ := hf
    exact ⟨by simpa using hlt, ih_inside hinside, ih hrest⟩

@[simp] theorem get?_shape (name : Name) (f : Folder) :
    f.shape.get? name = (f.get? name).map Node.shape := by
  induction f using cons_induction with
  | empty => rfl
  | cons n node rest ih =>
    rw [shape_cons, get?_cons, get?_cons, ih]
    split <;> rfl

theorem mem_names_of_get? {name : Name} {node : Node} {f : Folder} (h : f.get? name = some node) :
    name ∈ f.names := by
  induction f using cons_induction with
  | empty => cases h
  | cons n first rest ih =>
    rw [names_cons, List.mem_cons]
    rw [get?_cons] at h
    split at h
    · rename_i heq
      exact Or.inl heq.symm
    · exact Or.inr (ih h)

/-- A node of the same shape in the place of another leaves the folder's shape as it was. -/
theorem shape_insert {f : Folder} (hf : f.Ordered) {name : Name} {old new : Node}
    (hold : f.get? name = some old) (hshape : new.shape = old.shape) :
    (f.insert name new).shape = f.shape := by
  induction f using cons_induction with
  | empty => cases hold
  | cons n first rest ih =>
    obtain ⟨hlt, -, hrest⟩ := ordered_cons.1 hf
    rw [get?_cons] at hold
    rw [insert_cons]
    split at hold
    · rename_i heq
      cases hold
      simp [heq, hshape]
    · rename_i hne
      have hbefore : ¬ name < n := by
        intro hlt'
        exact Name.lt_irrefl n (Name.lt_trans (hlt name (mem_names_of_get? hold)) hlt')
      rw [if_neg hne, if_neg hbefore, shape_cons, shape_cons, ih hrest hold]

theorem exists_of_find?_cons {f inside : Folder} {d : Name} {place : Place}
    (h : f.find? (d :: place) = some (.dir inside)) :
    ∃ inner, f.get? d = some (.dir inner) ∧ inner.find? place = some (.dir inside) := by
  rw [find?] at h
  split at h
  · rename_i inner hinner
    exact ⟨inner, hinner, h⟩
  · rename_i node hnode _
    split at h
    · cases h
      exact absurd rfl (hnode inside)
    · cases h
  · cases h

theorem shape_modify_insert {dir : Place} {name : Name} {f inside : Folder} {old new : Node}
    (hf : f.Ordered) (hdir : f.find? dir = some (.dir inside)) (hold : inside.get? name = some old)
    (hshape : new.shape = old.shape) : (f.modify (insert name new) dir).shape = f.shape := by
  induction dir generalizing f with
  | nil =>
    cases hdir
    exact shape_insert hf hold hshape
  | cons d dir ih =>
    obtain ⟨inner, hinner, hfind⟩ := exists_of_find?_cons hdir
    have hkept := ih (ordered_get? hf hinner) hfind
    rw [modify, hinner]
    refine shape_insert hf hinner ?_
    rw [Node.shape, Node.shape, hkept]

/-- What stands in a folder stands below the folder's own place. -/
theorem find?_concat {f inside : Folder} {place : Place} (h : f.find? place = some (.dir inside))
    (name : Name) : f.find? (place ++ [name]) = inside.get? name := by
  induction place generalizing f with
  | nil =>
    cases h
    rw [List.nil_append, find?]
    cases inside.get? name with
    | none => rfl
    | some node => cases node <;> rfl
  | cons d place ih =>
    obtain ⟨inner, hinner, hfind⟩ := exists_of_find?_cons h
    rw [List.cons_append, find?, hinner]
    exact ih hfind

theorem get?_of_mem_toList {f : Folder} (hf : f.Ordered) {name : Name} {node : Node}
    (h : (name, node) ∈ f.toList) : f.get? name = some node := by
  induction f using cons_induction with
  | empty => cases h
  | cons n first rest ih =>
    obtain ⟨hlt, -, hrest⟩ := ordered_cons.1 hf
    rw [toList_cons, List.mem_cons] at h
    rw [get?_cons]
    rcases h with heq | hmem
    · obtain ⟨rfl, rfl⟩ := Prod.mk.inj heq
      exact if_pos rfl
    · have hne : n ≠ name := by
        rintro rfl
        exact Name.lt_irrefl n (hlt n (List.mem_map_of_mem hmem))
      rw [if_neg hne, ih hrest hmem]

theorem size_lt_of_get? {f inside : Folder} {name : Name} (h : f.get? name = some (.dir inside)) :
    inside.size < f.size := by
  induction f with
  | empty => cases h
  | file n content rest ih =>
    rw [get?] at h
    split at h
    · cases h
    · have hlt := ih h
      simp only [size]
      omega
  | link n target rest ih =>
    rw [get?] at h
    split at h
    · cases h
    · have hlt := ih h
      simp only [size]
      omega
  | dir n inner rest _ ih =>
    rw [get?] at h
    split at h
    · cases h
      simp only [size]
      omega
    · have hlt := ih h
      simp only [size]
      omega

theorem size_le_of_find? {f inside : Folder} {place : Place}
    (h : f.find? place = some (.dir inside)) : inside.size ≤ f.size := by
  induction place generalizing f with
  | nil =>
    cases h
    exact Nat.le_refl _
  | cons d place ih =>
    obtain ⟨inner, hinner, hfind⟩ := exists_of_find?_cons h
    have hlt := size_lt_of_get? hinner
    have hle := ih hfind
    omega

theorem ordered_find? {f inside : Folder} (hf : f.Ordered) {place : Place}
    (h : f.find? place = some (.dir inside)) : inside.Ordered := by
  induction place generalizing f with
  | nil =>
    cases h
    exact hf
  | cons d place ih =>
    obtain ⟨inner, hinner, hfind⟩ := exists_of_find?_cons h
    exact ih (ordered_get? hf hinner) hfind

/-- A file stands in a folder, which is there too. -/
theorem exists_dir_of_file {f : Folder} {place : Place} {content : Bytes}
    (h : f.find? place = some (.file content)) :
    ∃ dir name inside, place = dir ++ [name] ∧ f.find? dir = some (.dir inside) ∧
      inside.get? name = some (.file content) := by
  induction place generalizing f with
  | nil => cases h
  | cons d place ih =>
    rw [find?] at h
    split at h
    · rename_i inner hinner
      obtain ⟨dir, name, inside, rfl, hdir, hget⟩ := ih h
      refine ⟨d :: dir, name, inside, rfl, ?_, hget⟩
      rw [find?, hinner]
      exact hdir
    · rename_i node _ hnode
      split at h
      · rename_i hplace
        subst hplace
        cases h
        exact ⟨[], d, f, rfl, rfl, hnode⟩
      · cases h
    · cases h

/-- Nothing stands below a file. -/
theorem entryAt_below_file {f : Folder} {place other : Place} {content : Bytes}
    (h : f.entryAt place = some (.file content)) (hbelow : place <+: other) (hne : other ≠ place) :
    f.entryAt other = none := by
  obtain ⟨more, rfl⟩ := hbelow
  induction place generalizing f with
  | nil => cases h
  | cons d place ih =>
    rw [entryAt_cons] at h
    rw [List.cons_append, entryAt_cons]
    cases hget : f.get? d with
    | none => rfl
    | some node =>
      rw [hget] at h
      cases node with
      | dir inside =>
        refine ih h ?_
        rintro heq
        exact hne (by rw [List.cons_append, heq])
      | file c =>
        have hmore : place ++ more ≠ [] := by
          intro hnil
          obtain ⟨rfl, rfl⟩ := List.append_eq_nil_iff.1 hnil
          exact hne (List.append_nil _)
        exact if_neg hmore
      | link target =>
        dsimp only at h
        split at h
        · cases h
        · cases h

end Folder

namespace Tree

def shape (t : Tree) : Tree where
  cwd := t.cwd
  limits := t.limits
  top := t.top.shape
  ordered := Folder.ordered_shape t.ordered

theorem entryAt_eq (t : Tree) (place : Place) : t.entryAt place = (t.find? place).map Node.entry :=
  rfl

theorem cwd_put (t : Tree) (place : Place) (e : Entry) : (t.put place e).cwd = t.cwd := by
  unfold put change
  split <;> rfl

theorem limits_put (t : Tree) (place : Place) (e : Entry) :
    (t.put place e).limits = t.limits := by
  unfold put change
  split <;> rfl

theorem shape_put_file {t : Tree} {place : Place} {old : Bytes}
    (h : t.find? place = some (.file old)) (new : Bytes) :
    (t.put place (.file new)).shape = t.shape := by
  obtain ⟨dir, name, inside, rfl, hdir, hget⟩ := Folder.exists_dir_of_file h
  have htop : (t.put (dir ++ [name]) (.file new)).top.shape = t.top.shape := by
    rw [top_put]
    exact Folder.shape_modify_insert t.ordered hdir hget rfl
  simp only [shape, cwd_put, limits_put, htop]

theorem entryAt_put_file {t : Tree} {place : Place} {old : Bytes}
    (h : t.find? place = some (.file old)) (new : Bytes) :
    (t.put place (.file new)).entryAt place = some (.file new) := by
  obtain ⟨dir, name, inside, rfl, hdir, -⟩ := Folder.exists_dir_of_file h
  rw [entryAt_eq, find?_put_self _ hdir]
  rfl

theorem entryAt_put_file_of_ne {t : Tree} {place other : Place} {old : Bytes}
    (h : t.find? place = some (.file old)) (new : Bytes) (hne : other ≠ place) :
    (t.put place (.file new)).entryAt other = t.entryAt other := by
  by_cases hbelow : place <+: other
  · have hold : t.entryAt place = some (.file old) := by
      rw [entryAt_eq, h]
      rfl
    have hnew := entryAt_put_file h new
    exact (Folder.entryAt_below_file hnew hbelow hne).trans
      (Folder.entryAt_below_file hold hbelow hne).symm
  · exact entryAt_put_of_not_isPrefix t _ hbelow

end Tree

end ImportAlias
