import ImportAlias.Proofs.Walk.Filtering
import Mathlib.Data.List.Forall2
import Mathlib.Data.List.Induction

/-!
# The root spelled in another way

The same directory can be the root under many spellings, and a path that a walk yields starts with
the root as it was spelled. Two walks from one directory come to the same entries all the same, one
by one, and the two paths of an entry lead to the same place.
-/
namespace ImportAlias

namespace Walk

/-- Two spellings of one directory, of which none stands for standard input. No path below it is too
long under the one spelling and not under the other. -/
structure Respelled (t : Tree) (root root' : Path) (place : Place) (inside : Folder) : Prop where
  locate : t.locate .use root = .ok (.taken place (.dir inside))
  locate' : t.locate .use root' = .ok (.taken place (.dir inside))
  input : isStandardInput root = false
  input' : isStandardInput root' = false
  limits : ∀ names node, inside.find? names = some node →
    t.limits.admitsPath (root.joined names) = t.limits.admitsPath (root'.joined names)

/-- What is found under the one spelling and what is found under the other in its place: a file that
can be come to, or a directory that cannot be opened. -/
inductive Counterpart (s : Selection) (t : Tree) (root root' : Path) (inside : Folder) :
    Except Error Path → Except Error Path → Prop
  | file {dir : Place} {name : Name} {content : Bytes}
      (hfind : inside.find? (dir ++ [name]) = some (.file content))
      (hopened : opened s t.limits root dir.reverse = true) :
      Counterpart s t root root' inside (.ok (root.joined (dir ++ [name])))
        (.ok (root'.joined (dir ++ [name])))
  | tooLong (names : Place) :
      Counterpart s t root root' inside (.error (.walk (root.joined names) .tooLong))
        (.error (.walk (root'.joined names) .tooLong))

section Respelled
variable {s : Selection} {t : Tree} {root root' : Path} {place : Place} {inside : Folder}

theorem Respelled.ne_nil (h : Respelled t root root' place inside) :
    root.bytes ≠ [] ∧ root'.bytes ≠ [] := by
  obtain ⟨_, hreach, -⟩ := Tree.exists_reaches h.locate
  obtain ⟨_, hreach', -⟩ := Tree.exists_reaches h.locate'
  exact ⟨hreach.ne_nil, hreach'.ne_nil⟩

theorem Respelled.fits_eq (h : Respelled t root root' place inside) {above : List Name}
    {name : Name} {node : Node} (hfind : inside.find? (name :: above).reverse = some node) :
    fits t.limits root above name = fits t.limits root' above name := by
  rw [fits, fits, h.limits _ _ hfind]

/-- The same directories are opened. -/
theorem Respelled.opened_eq (h : Respelled t root root' place inside) {above : List Name}
    {node : Node} (hfind : inside.find? above.reverse = some node) :
    opened s t.limits root above = opened s t.limits root' above := by
  induction above generalizing node with
  | nil => rfl
  | cons name above ih =>
    have hfits := h.fits_eq hfind
    rw [List.reverse_cons] at hfind
    obtain ⟨outer, houter⟩ := Folder.exists_dir_of_find?_append (by simp) hfind
    rw [opened, opened, ih houter, hfits]

theorem Respelled.rel_verdict? (h : Respelled t root root' place inside) {names : Place}
    {node : Node} (hne : names ≠ []) (hfind : inside.find? names = some node) :
    Option.Rel (Counterpart s t root root' inside) (verdict? s t.limits root (names, node))
      (verdict? s t.limits root' (names, node)) := by
  obtain ⟨above, name, rfl⟩ : ∃ above name, names = (name :: above).reverse := by
    cases hreverse : names.reverse with
    | nil => exact absurd (List.reverse_eq_nil_iff.1 hreverse) hne
    | cons name above => exact ⟨above, name, by rw [← hreverse, List.reverse_reverse]⟩
  have hsplit : inside.find? (above.reverse ++ [name]) = some node := by
    rw [← List.reverse_cons]
    exact hfind
  obtain ⟨outer, houter⟩ := Folder.exists_dir_of_find?_append (by simp) hsplit
  rw [verdict?_eq, verdict?_eq, ← h.opened_eq houter, ← h.fits_eq hfind]
  split
  · rename_i hkept
    rw [Bool.and_eq_true] at hkept
    cases node with
    | file content =>
      dsimp only
      split
      · rw [List.reverse_cons]
        refine .some (.file hsplit ?_)
        rw [List.reverse_reverse]
        exact hkept.1
      · exact .none
    | dir folder =>
      dsimp only
      split
      · exact .none
      · exact .some (.tooLong _)
    | link target => exact .none
  · exact .none

/-- The two walks come to the same entries. -/
theorem Respelled.exists_files (h : Respelled t root root' place inside) (s : Selection) :
    ∃ found found', files s t root = .ok found ∧ files s t root' = .ok found' ∧
      List.Forall₂ (Counterpart s t root root' inside) found found' := by
  have hordered := Folder.ordered_find? t.ordered (Tree.find?_of_locate h.locate)
  have hfiles := files_eq_filterMap (s := s) (Tree.lookup_of_locate h.locate) h.input
  have hfiles' := files_eq_filterMap (s := s) (Tree.lookup_of_locate h.locate') h.input'
  have hsame : List.Forall₂ (fun e e' => e = e' ∧ e ∈ inside.allBelow []) (inside.allBelow [])
      (inside.allBelow []) := List.forall₂_same.2 fun e he => ⟨rfl, he⟩
  refine ⟨_, _, hfiles, hfiles', List.rel_filterMap ?_ hsame⟩
  rintro ⟨names, node⟩ _ ⟨rfl, hmem⟩
  obtain ⟨names', hne, rfl, hfind⟩ := (Folder.mem_allBelow_iff hordered).1 hmem
  exact h.rel_verdict? hne hfind

end Respelled

section Locate
variable {s : Selection} {t : Tree} {root : Path} {trail : Tree.Trail} {inside : Folder}

theorem admitsName_of_opened {above : List Name} (h : opened s t.limits root above = true) :
    ∀ name ∈ above, t.limits.admitsName name.bytes = true := by
  induction above with
  | nil =>
    intro name hname
    cases hname
  | cons last above ih =>
    simp only [opened, fits, Bool.and_eq_true] at h
    obtain ⟨⟨habove, -⟩, -, hlast⟩ := h
    exact List.forall_mem_cons.2 ⟨hlast, ih habove⟩

/-- The way goes on from the root to a directory below it. -/
theorem exists_reaches_joined (hreach : t.Reaches root trail) {dir : Place} {folder : Folder}
    (hnames : ∀ name ∈ dir, t.limits.admitsName name.bytes = true)
    (hfind : (trail.folder t).find? dir = some (.dir folder)) :
    ∃ trail', t.Reaches (root.joined dir) trail' ∧ trail'.place = trail.place ++ dir ∧
      trail'.folder t = folder := by
  induction dir using List.reverseRecOn generalizing folder with
  | nil =>
    cases hfind
    refine ⟨trail, ?_, by simp, rfl⟩
    rw [Path.joined_nil]
    exact hreach
  | append_singleton dir name ih =>
    obtain ⟨outer, houter⟩ := Folder.exists_dir_of_find?_append (by simp) hfind
    obtain ⟨trail', hreach', hplace, hfolder⟩ :=
      ih (fun n hn => hnames n (List.mem_append_left _ hn)) houter
    have hget : (trail'.folder t).get? name = some (.dir folder) := by
      rw [hfolder, ← Folder.find?_concat houter, hfind]
    have hadmits := hnames name (List.mem_append_right _ List.mem_cons_self)
    have hchild := hreach'.child hget hadmits
    rw [Path.child_joined hreach.ne_nil] at hchild
    refine ⟨_, hchild, ?_, rfl⟩
    rw [Tree.Trail.place_cons, hplace, List.append_assoc]

theorem locate_joined (hreach : t.Reaches root trail) {dir : Place} {name : Name} {content : Bytes}
    (hnames : ∀ name ∈ dir, t.limits.admitsName name.bytes = true)
    (hfind : (trail.folder t).find? (dir ++ [name]) = some (.file content)) :
    t.locate .use (root.joined (dir ++ [name])) =
      if t.limits.admitsPath (root.joined (dir ++ [name])) && t.limits.admitsName name.bytes then
        .ok (.taken (trail.place ++ dir ++ [name]) (.file content))
      else .error .tooLong := by
  obtain ⟨folder, hfolder⟩ := Folder.exists_dir_of_find?_append (by simp) hfind
  obtain ⟨trail', hreach', hplace, rfl⟩ := exists_reaches_joined hreach hnames hfolder
  rw [Folder.find?_concat hfolder] at hfind
  have hlocate := hreach'.locate_child hfind (by intro target heq; cases heq) .use
  rw [Path.child_joined hreach.ne_nil, hplace] at hlocate
  exact hlocate

end Locate

/-- The two paths of a file lead to the same place. -/
theorem Respelled.locate_eq {s : Selection} {t : Tree} {root root' : Path} {place : Place}
    {inside : Folder} (h : Respelled t root root' place inside) {dir : Place} {name : Name}
    {content : Bytes} (hfind : inside.find? (dir ++ [name]) = some (.file content))
    (hopened : opened s t.limits root dir.reverse = true) :
    t.locate .use (root.joined (dir ++ [name])) = t.locate .use (root'.joined (dir ++ [name])) := by
  obtain ⟨trail, hreach, hplace, rfl⟩ := Tree.exists_reaches h.locate
  obtain ⟨trail', hreach', hplace', hfolder⟩ := Tree.exists_reaches h.locate'
  have hnames : ∀ n ∈ dir, t.limits.admitsName n.bytes = true := by
    intro n hn
    exact admitsName_of_opened hopened n (List.mem_reverse.2 hn)
  have hfind' : (trail'.folder t).find? (dir ++ [name]) = some (.file content) := by
    rw [hfolder, hfind]
  rw [locate_joined hreach hnames hfind, locate_joined hreach' hnames hfind', h.limits _ _ hfind,
    hplace, hplace']

end Walk

end ImportAlias
