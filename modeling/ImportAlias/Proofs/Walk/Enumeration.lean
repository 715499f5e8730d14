import ImportAlias.Proofs.Tree.Resolution
import ImportAlias.Walk

/-!
# What a walk yields

`Walk.Yields` counts the steps in which a list of items is worked off. In a tree that does not
change, the walk from a directory yields what `Walk.below` reads off the folder, file by file with
its place, in no more steps than the folder has entries. No two files have the same place, and the
only thing that can go wrong is a path that has grown too long.
-/
namespace ImportAlias

namespace Walk

/-- The items are worked off in so many steps, and yield these files and errors. -/
inductive Yields (s : Selection) (t : Tree) :
    List Item → List (Except Error Path) → Nat → Prop
  | done : Yields s t [] [] 0
  | file {p : Path} {rest : List Item} {out : List (Except Error Path)} {n : Nat} :
      Yields s t rest out n → Yields s t (.file p :: rest) (.ok p :: out) (n + 1)
  | opened {item : Item} {items rest : List Item} {out : List (Except Error Path)} {n : Nat} :
      (∀ p, item ≠ .file p) → expand s t item = .ok items →
      Yields s t (items ++ rest) out n → Yields s t (item :: rest) out (n + 1)
  | failed {item : Item} {rest : List Item} {e : Error} {out : List (Except Error Path)} {n : Nat} :
      expand s t item = .error e →
      Yields s t rest out n → Yields s t (item :: rest) (.error e :: out) (n + 1)

theorem filesFrom_of_yields {s : Selection} {t : Tree} {items : List Item}
    {out : List (Except Error Path)} {n fuel : Nat} (h : Yields s t items out n) (hn : n ≤ fuel) :
    filesFrom s t fuel items = out := by
  induction h generalizing fuel with
  | done => cases fuel <;> rfl
  | file _ ih =>
    obtain ⟨fuel, rfl⟩ := Nat.exists_eq_add_of_le' (Nat.le_trans (Nat.le_add_left 1 _) hn)
    rw [filesFrom, ih (by omega)]
  | @opened item items rest out n hitem hexpand _ ih =>
    obtain ⟨fuel, rfl⟩ := Nat.exists_eq_add_of_le' (Nat.le_trans (Nat.le_add_left 1 _) hn)
    cases item with
    | file p => exact absurd rfl (hitem p)
    | root p =>
      rw [filesFrom, hexpand]
      exact ih (by omega)
      exact fun q => hitem q
    | dir p =>
      rw [filesFrom, hexpand]
      exact ih (by omega)
      exact fun q => hitem q
  | @failed item rest e out n hexpand _ ih =>
    obtain ⟨fuel, rfl⟩ := Nat.exists_eq_add_of_le' (Nat.le_trans (Nat.le_add_left 1 _) hn)
    cases item with
    | file p => cases hexpand
    | root p =>
      rw [filesFrom, hexpand, ih (by omega)]
      exact fun q h => nomatch h
    | dir p =>
      rw [filesFrom, hexpand, ih (by omega)]
      exact fun q h => nomatch h

/-- The files below a directory with their places, read off what the directory holds. A directory
whose path has grown too long is an error in its place. -/
def below (s : Selection) (limits : Limits) :
    Folder → Path → Place → List (Except Error (Path × Place))
  | .empty, _, _ => []
  | .file name content rest, p, place =>
    (match visit? s p name (.file content) with
      | some _ => [.ok (p.child name.bytes, place ++ [name])]
      | none => []) ++ below s limits rest p place
  | .link _ _ rest, p, place => below s limits rest p place
  | .dir name inside rest, p, place =>
    let q := p.child name.bytes
    (if Selection.ignores s.ignored q then []
      else if limits.admitsPath q && limits.admitsName name.bytes then
        below s limits inside q (place ++ [name])
      else [.error (.walk q .tooLong)]) ++ below s limits rest p place

/-- The items that the entries of a folder give. -/
def itemsOf (s : Selection) (p : Path) (f : Folder) : List Item :=
  f.toList.filterMap fun (name, node) => visit? s p name node

section Below
variable {s : Selection} {t : Tree}

theorem list_of_locate {p : Path} {place : Place} {inside : Folder}
    (h : t.locate .use p = .ok (.taken place (.dir inside))) :
    list s t p = .ok (itemsOf s p inside) := by
  simp [list, Tree.listDir, Tree.lookup, h, itemsOf, bind, Except.bind, pure, Except.pure]

theorem list_of_error {p : Path} {fault : Fault} (h : t.locate .use p = .error fault) :
    list s t p = .error (.walk p fault) := by
  simp [list, Tree.listDir, Tree.lookup, h, bind, Except.bind]

/-- The entries of `f` stand in the directory that a trail leads to. -/
def Holds (t : Tree) (trail : Tree.Trail) (f : Folder) : Prop :=
  ∀ name node, (name, node) ∈ f.toList → (trail.folder t).get? name = some node

theorem Holds.of_cons {trail : Tree.Trail} (name : Name) (node : Node) (rest : Folder)
    (h : Holds t trail (Folder.cons name node rest)) :
    (trail.folder t).get? name = some node ∧ Holds t trail rest := by
  rw [Holds, Folder.toList_cons] at h
  exact ⟨h name node List.mem_cons_self, fun n m hm => h n m (List.mem_cons_of_mem _ hm)⟩

theorem holds_self {f : Folder} (hf : f.Ordered) {trail : Tree.Trail}
    (hfolder : trail.folder t = f) : Holds t trail f := by
  intro name node hmem
  rw [hfolder]
  exact Folder.get?_of_mem_toList hf hmem

theorem itemsOf_cons (s : Selection) (p : Path) (name : Name) (node : Node) (rest : Folder) :
    itemsOf s p (Folder.cons name node rest) =
      (visit? s p name node).toList ++ itemsOf s p rest := by
  rw [itemsOf, Folder.toList_cons, List.filterMap_cons]
  dsimp only
  cases visit? s p name node <;> rfl

theorem visit?_file (s : Selection) (p : Path) (name : Name) (content : Bytes) :
    visit? s p name (.file content) = none ∨
      visit? s p name (.file content) = some (.file (p.child name.bytes)) := by
  dsimp only [visit?]
  split
  · exact Or.inl rfl
  · split
    · exact Or.inr rfl
    · exact Or.inl rfl

theorem visit?_dir (s : Selection) (p : Path) (name : Name) (inside : Folder) :
    visit? s p name (.dir inside) =
      if Selection.ignores s.ignored (p.child name.bytes) then none
      else some (.dir (p.child name.bytes)) := rfl

/-- The items of a folder yield what is read off it, in no more steps than it has entries. -/
theorem exists_yields_below {f : Folder} (hf : f.Ordered) {p : Path} {trail : Tree.Trail}
    (hreach : t.Reaches p trail) (hholds : Holds t trail f) {rest : List Item}
    {out : List (Except Error Path)} {n : Nat} (h : Yields s t rest out n) :
    ∃ k ≤ f.size, Yields s t (itemsOf s p f ++ rest)
      ((below s t.limits f p trail.place).map (Except.map Prod.fst) ++ out) (n + k) := by
  induction f generalizing p trail rest out n with
  | empty => exact ⟨0, Nat.le_refl 0, h⟩
  | file name content more ih =>
    obtain ⟨-, hmore⟩ := hholds.of_cons name (.file content) more
    obtain ⟨k, hk, hyields⟩ := ih hf.2 hreach hmore h
    have hitems := itemsOf_cons s p name (.file content) more
    rw [Folder.cons] at hitems
    rw [hitems, below, Folder.size]
    rcases visit?_file s p name content with hvisit | hvisit
    · rw [hvisit]
      exact ⟨k, by omega, hyields⟩
    · rw [hvisit]
      exact ⟨k + 1, by omega, hyields.file⟩
  | link name target more ih =>
    obtain ⟨-, hmore⟩ := hholds.of_cons name (.link target) more
    obtain ⟨k, hk, hyields⟩ := ih hf.2 hreach hmore h
    have hitems := itemsOf_cons s p name (.link target) more
    have hvisit : visit? s p name (.link target) = none := by
      dsimp only [visit?]
      split <;> rfl
    rw [Folder.cons, hvisit] at hitems
    rw [hitems, below, Folder.size]
    exact ⟨k, by omega, hyields⟩
  | dir name inside more ih_inside ih =>
    obtain ⟨hget, hmore⟩ := hholds.of_cons name (.dir inside) more
    obtain ⟨k, hk, hyields⟩ := ih hf.2.2 hreach hmore h
    have hitems := itemsOf_cons s p name (.dir inside) more
    have hlocate := hreach.locate_child hget (by intro target heq; cases heq) .use
    rw [Folder.cons, visit?_dir] at hitems
    rw [hitems, below, Folder.size]
    split
    · exact ⟨k, by omega, hyields⟩
    · split
      · rename_i hadmits
        -- the directory is looked into, and its items come before what was to come after it
        rw [if_pos hadmits] at hlocate
        rw [Bool.and_eq_true] at hadmits
        have hchild := hreach.child hget hadmits.2
        obtain ⟨m, hm, hinside⟩ := ih_inside hf.2.1 hchild (holds_self hf.2.1 rfl) hyields
        rw [Tree.Trail.place_cons, Nat.add_assoc] at hinside
        rw [List.map_append, List.append_assoc (List.map _ _)]
        have hitem : ∀ q, Item.dir (p.child name.bytes) ≠ .file q := by
          intro q heq
          cases heq
        exact ⟨k + m + 1, by omega, Yields.opened hitem (list_of_locate hlocate) hinside⟩
      · rename_i hadmits
        rw [if_neg hadmits] at hlocate
        exact ⟨k + 1, by omega, Yields.failed (list_of_error hlocate) hyields⟩

/-- A file is found at its place, whatever its path is used for, unless the path has grown too
long. -/
structure Found (t : Tree) (p : Path) (place : Place) (content : Bytes) : Prop where
  locate : (∀ aim, t.locate aim p = .ok (.taken place (.file content))) ∨
    ∀ aim, t.locate aim p = .error .tooLong
  locate_of_unbounded : t.limits = {} → ∀ aim, t.locate aim p = .ok (.taken place (.file content))

theorem found_child {p : Path} {trail : Tree.Trail} (hreach : t.Reaches p trail) {name : Name}
    {content : Bytes} (hget : (trail.folder t).get? name = some (.file content)) :
    Found t (p.child name.bytes) (trail.place ++ [name]) content := by
  have hlocate := hreach.locate_child hget (fun _ heq => nomatch heq)
  constructor
  · by_cases hadmits : (t.limits.admitsPath (p.child name.bytes) &&
        t.limits.admitsName name.bytes) = true
    · exact Or.inl fun aim => by rw [hlocate aim, if_pos hadmits]
    · exact Or.inr fun aim => by rw [hlocate aim, if_neg hadmits]
  · intro hlimits aim
    rw [hlocate aim, hlimits]
    rfl

theorem found_of_mem_below {f : Folder} (hf : f.Ordered) {p : Path} {trail : Tree.Trail}
    (hreach : t.Reaches p trail) (hholds : Holds t trail f) {q : Path} {place : Place}
    (h : .ok (q, place) ∈ below s t.limits f p trail.place) :
    ∃ content, Found t q place content := by
  induction f generalizing p trail with
  | empty => cases h
  | file name content more ih =>
    obtain ⟨hget, hmore⟩ := hholds.of_cons name (.file content) more
    rw [below, List.mem_append] at h
    rcases h with h | h
    · split at h
      · rw [List.mem_singleton] at h
        cases h
        exact ⟨content, found_child hreach hget⟩
      · cases h
    · exact ih hf.2 hreach hmore h
  | link name target more ih =>
    obtain ⟨-, hmore⟩ := hholds.of_cons name (.link target) more
    exact ih hf.2 hreach hmore h
  | dir name inside more ih_inside ih =>
    obtain ⟨hget, hmore⟩ := hholds.of_cons name (.dir inside) more
    rw [below, List.mem_append] at h
    rcases h with h | h
    · split at h
      · cases h
      · split at h
        · rename_i hadmits
          rw [Bool.and_eq_true] at hadmits
          rw [← Tree.Trail.place_cons name inside] at h
          exact ih_inside hf.2.1 (hreach.child hget hadmits.2) (holds_self hf.2.1 rfl) h
        · rw [List.mem_singleton] at h
          cases h
    · exact ih hf.2.2 hreach hmore h

/-- Without bounds on names and paths nothing goes wrong. -/
theorem exists_files_below (f : Folder) (p : Path) (place : Place) :
    ∃ files : List (Path × Place), below s {} f p place = files.map .ok := by
  induction f generalizing p place with
  | empty => exact ⟨[], rfl⟩
  | file name content more ih =>
    obtain ⟨files, hfiles⟩ := ih p place
    rw [below, hfiles]
    split
    · exact ⟨(p.child name.bytes, place ++ [name]) :: files, rfl⟩
    · exact ⟨files, rfl⟩
  | link name target more ih => exact ih p place
  | dir name inside more ih_inside ih =>
    obtain ⟨files, hfiles⟩ := ih p place
    obtain ⟨inner, hinner⟩ := ih_inside (p.child name.bytes) (place ++ [name])
    have hadmits : (Limits.admitsPath {} (p.child name.bytes) &&
        Limits.admitsName {} name.bytes) = true := rfl
    rw [below, hfiles, hinner, if_pos hadmits]
    split
    · exact ⟨files, rfl⟩
    · exact ⟨inner ++ files, List.map_append.symm⟩

/-- The places that are found. -/
def places (found : List (Except Error (Path × Place))) : List Place :=
  found.filterMap fun r => r.toOption.map Prod.snd

theorem places_append (a b : List (Except Error (Path × Place))) :
    places (a ++ b) = places a ++ places b := List.filterMap_append

/-- What is found in a folder stands below one of its names. -/
theorem exists_name_of_mem_places {f : Folder} {limits : Limits} {p : Path} {place other : Place}
    (h : other ∈ places (below s limits f p place)) :
    ∃ name ∈ f.names, place ++ [name] <+: other := by
  induction f generalizing p place with
  | empty => cases h
  | file name content more ih =>
    rw [below, places_append, List.mem_append] at h
    rcases h with h | h
    · refine ⟨name, List.mem_cons_self, ?_⟩
      split at h
      · cases List.mem_singleton.1 h
        exact List.prefix_refl _
      · cases h
    · obtain ⟨n, hn, hbelow⟩ := ih h
      exact ⟨n, List.mem_cons_of_mem _ hn, hbelow⟩
  | link name target more ih =>
    obtain ⟨n, hn, hbelow⟩ := ih h
    exact ⟨n, List.mem_cons_of_mem _ hn, hbelow⟩
  | dir name inside more ih_inside ih =>
    rw [below, places_append, List.mem_append] at h
    rcases h with h | h
    · refine ⟨name, List.mem_cons_self, ?_⟩
      split at h
      · cases h
      · split at h
        · obtain ⟨n, -, hbelow⟩ := ih_inside h
          exact (List.prefix_append _ _).trans hbelow
        · cases h
    · obtain ⟨n, hn, hbelow⟩ := ih h
      exact ⟨n, List.mem_cons_of_mem _ hn, hbelow⟩

/-- What stands under one name and what stands under later ones part at that name. -/
theorem not_mem_places_of_lt {more : Folder} {limits : Limits} {p : Path} {place other : Place}
    {name : Name} (hlt : ∀ n ∈ more.names, name < n) (hbelow : place ++ [name] <+: other) :
    other ∉ places (below s limits more p place) := by
  intro hmem
  obtain ⟨n, hn, hbelow'⟩ := exists_name_of_mem_places hmem
  have hsame := List.prefix_of_prefix_length_le hbelow hbelow' (by simp)
  have hlast := List.append_cancel_left (hsame.eq_of_length (by simp))
  cases hlast
  exact Name.lt_irrefl _ (hlt _ hn)

theorem nodup_places_below {f : Folder} (hf : f.Ordered) (limits : Limits) (p : Path)
    (place : Place) : (places (below s limits f p place)).Nodup := by
  induction f generalizing p place with
  | empty => exact List.nodup_nil
  | file name content more ih =>
    have hmore := ih hf.2 p place
    rw [below, places_append]
    split
    · exact List.nodup_cons.2 ⟨not_mem_places_of_lt hf.1 (List.prefix_refl _), hmore⟩
    · exact hmore
  | link name target more ih => exact ih hf.2 p place
  | dir name inside more ih_inside ih =>
    have hmore := ih hf.2.2 p place
    rw [below, places_append]
    split
    · exact hmore
    · split
      · refine List.nodup_append.2 ⟨ih_inside hf.2.1 _ _, hmore, ?_⟩
        rintro other hother _ hmem rfl
        obtain ⟨n, -, hbelow⟩ := exists_name_of_mem_places hother
        exact not_mem_places_of_lt hf.1 ((List.prefix_append _ _).trans hbelow) hmem
      · exact hmore

end Below

section Root
variable {s : Selection} {t : Tree} {root : Path}

/-- What the walk from a root yields, with the places of the files. -/
def fromRoot (s : Selection) (t : Tree) (root : Path) : List (Except Error (Path × Place)) :=
  if isStandardInput root then []
  else match t.locate .use root with
    | .ok (.taken place (.dir inside)) => below s t.limits inside root place
    | _ => []

theorem exists_locate_of_isDir (h : t.isDir root = true) :
    ∃ place inside, t.locate .use root = .ok (.taken place (.dir inside)) := by
  rw [Tree.isDir] at h
  split at h
  · rename_i inside hlookup
    obtain ⟨place, hlocate⟩ := Tree.exists_locate_of_lookup hlookup
    exact ⟨place, inside, hlocate⟩
  · cases h

theorem openRoot_of_locate {place : Place} {inside : Folder} (hroot : isStandardInput root = false)
    (h : t.locate .use root = .ok (.taken place (.dir inside))) :
    openRoot s t root = .ok (itemsOf s root inside) := by
  rw [openRoot, hroot]
  rcases Tree.locate_inspect h with hdir | ⟨place', target, hlink⟩
  · rw [Tree.lookup_of_locate hdir]
    exact list_of_locate h
  · rw [Tree.lookup_of_locate hlink]
    dsimp only
    rw [Tree.lookup_of_locate h]
    exact list_of_locate h

/-- A walk takes no more steps than its budget allows, with two left. -/
theorem exists_yields_root (h : t.isDir root = true) :
    ∃ n, n + 2 ≤ budget t ∧
      Yields s t [.root root] ((fromRoot s t root).map (Except.map Prod.fst)) n := by
  obtain ⟨place, inside, hlocate⟩ := exists_locate_of_isDir h
  have hsize : inside.size ≤ t.top.size := Folder.size_le_of_find? (Tree.find?_of_locate hlocate)
  cases hinput : isStandardInput root with
  | true =>
    have hopen : expand s t (.root root) = .ok [] := by
      rw [expand, openRoot, hinput]
      rfl
    refine ⟨1, by rw [budget]; omega, ?_⟩
    rw [fromRoot, hinput]
    exact Yields.opened (fun _ heq => nomatch heq) hopen Yields.done
  | false =>
    obtain ⟨trail, hreach, rfl, rfl⟩ := Tree.exists_reaches hlocate
    have hordered := Folder.ordered_find? t.ordered (Tree.find?_of_locate hlocate)
    obtain ⟨k, hk, hyields⟩ :=
      exists_yields_below hordered hreach (holds_self hordered rfl) (Yields.done (s := s))
    refine ⟨0 + k + 1, by rw [budget]; omega, ?_⟩
    rw [fromRoot, hinput, hlocate]
    rw [List.append_nil (List.map _ _)] at hyields
    exact Yields.opened (fun _ heq => nomatch heq) (openRoot_of_locate hinput hlocate) hyields

theorem isDir_of_files {found : List (Except Error Path)} (h : files s t root = .ok found) :
    t.isDir root = true := by
  cases hdir : t.isDir root with
  | true => rfl
  | false =>
    rw [files, hdir] at h
    cases h

theorem files_eq (h : t.isDir root = true) :
    files s t root = .ok ((fromRoot s t root).map (Except.map Prod.fst)) := by
  obtain ⟨n, hn, hyields⟩ := exists_yields_root (s := s) h
  rw [files, if_pos h, filesFrom_of_yields hyields (by omega)]

theorem found_of_mem_fromRoot {p : Path} {place : Place}
    (h : .ok (p, place) ∈ fromRoot s t root) : ∃ content, Found t p place content := by
  rw [fromRoot] at h
  split at h
  · cases h
  · split at h
    · rename_i hlocate
      obtain ⟨trail, hreach, rfl, rfl⟩ := Tree.exists_reaches hlocate
      have hordered := Folder.ordered_find? t.ordered (Tree.find?_of_locate hlocate)
      exact found_of_mem_below hordered hreach (holds_self hordered rfl) h
    · cases h

theorem nodup_places_fromRoot (s : Selection) (t : Tree) (root : Path) :
    (places (fromRoot s t root)).Nodup := by
  rw [fromRoot]
  split
  · exact List.nodup_nil
  · split
    · rename_i hlocate
      have hordered := Folder.ordered_find? t.ordered (Tree.find?_of_locate hlocate)
      exact nodup_places_below hordered _ _ _
    · exact List.nodup_nil

theorem exists_files_of_unbounded (hlimits : t.limits = {}) :
    ∃ files : List (Path × Place), fromRoot s t root = files.map .ok := by
  rw [fromRoot, hlimits]
  split
  · exact ⟨[], rfl⟩
  · split
    · exact exists_files_below _ _ _
    · exact ⟨[], rfl⟩

end Root

section Shape
variable {s : Selection} {t t' : Tree}

theorem visit?_shape (s : Selection) (p : Path) (name : Name) (node : Node) :
    visit? s p name node.shape = visit? s p name node := by
  cases node <;> rfl

theorem itemsOf_shape (s : Selection) (p : Path) (f : Folder) :
    itemsOf s p f.shape = itemsOf s p f := by
  rw [itemsOf, itemsOf, Folder.toList_shape, List.filterMap_map]
  simp only [Function.comp_def, visit?_shape]

theorem list_shape (s : Selection) (t : Tree) (p : Path) : list s t.shape p = list s t p := by
  rw [list, list, Tree.listDir, Tree.listDir, Tree.lookup_shape]
  cases t.lookup .use p with
  | error fault => rfl
  | ok node =>
    cases node with
    | dir inside => exact congrArg Except.ok (itemsOf_shape s p inside)
    | file content => rfl
    | link target => rfl

theorem openRoot_shape (s : Selection) (t : Tree) (root : Path) :
    openRoot s t.shape root = openRoot s t root := by
  rw [openRoot, openRoot, Tree.lookup_shape, Tree.lookup_shape, list_shape]
  split
  · rfl
  · cases t.lookup .inspect root with
    | error fault => rfl
    | ok node =>
      cases node with
      | dir inside => rfl
      | file content => rfl
      | link target =>
        dsimp only [Except.map, Node.shape]
        cases t.lookup .use root with
        | error fault => rfl
        | ok node => cases node <;> rfl

theorem expand_shape (s : Selection) (t : Tree) (item : Item) :
    expand s t.shape item = expand s t item := by
  cases item with
  | root p => exact openRoot_shape s t p
  | dir p => exact list_shape s t p
  | file p => rfl

/-- What an item stands for is a matter of the shape of the tree. -/
theorem expand_eq_of_shape_eq (h : t'.shape = t.shape) (item : Item) :
    expand s t' item = expand s t item := by
  rw [← expand_shape s t', ← expand_shape s t, h]

theorem filesFrom_eq_of_shape_eq (h : t'.shape = t.shape) (fuel : Nat) (items : List Item) :
    filesFrom s t' fuel items = filesFrom s t fuel items := by
  induction fuel generalizing items with
  | zero => rfl
  | succ fuel ih =>
    cases items with
    | nil => rfl
    | cons item rest =>
      have hexpand := expand_eq_of_shape_eq (s := s) h item
      cases item with
      | file p => exact congrArg (_ :: ·) (ih rest)
      | root p => simp only [filesFrom, hexpand, ih]
      | dir p => simp only [filesFrom, hexpand, ih]

theorem budget_eq_of_shape_eq (h : t'.shape = t.shape) : budget t' = budget t := by
  have hsize := congrArg (fun t : Tree => t.top.size) h
  dsimp only [Tree.shape] at hsize
  rw [Folder.size_shape, Folder.size_shape] at hsize
  rw [budget, budget, hsize]

theorem isDir_eq_of_shape_eq (h : t'.shape = t.shape) (root : Path) :
    t'.isDir root = t.isDir root := by
  have hshape : ∀ t : Tree, t.shape.isDir root = t.isDir root := by
    intro t
    rw [Tree.isDir, Tree.isDir, Tree.lookup_shape]
    cases t.lookup .use root with
    | error fault => rfl
    | ok node => cases node <;> rfl
  rw [← hshape t', ← hshape t, h]

/-- Which files there are is a matter of the shape of the tree. -/
theorem files_eq_of_shape_eq (h : t'.shape = t.shape) (root : Path) :
    files s t' root = files s t root := by
  rw [files, files, isDir_eq_of_shape_eq h, budget_eq_of_shape_eq h, filesFrom_eq_of_shape_eq h]

end Shape

end Walk

end ImportAlias
