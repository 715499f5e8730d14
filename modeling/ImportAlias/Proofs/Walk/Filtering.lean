import ImportAlias.Proofs.Path.Joining
import ImportAlias.Proofs.Tree.Listing
import ImportAlias.Proofs.Walk.Enumeration
import Mathlib.Data.List.Basic

/-!
# A walk picks out of all entries

A walk prunes: it does not look into a directory that is ignored, and it cannot look into one whose
path has grown too long. What it yields is nevertheless read off the list of all entries below the
root, entry by entry: `Walk.verdict?` says what becomes of an entry by the names that lead to it.
Where no directory is too deep to be opened, these are the files with a listed extension whose names
below the root are not ignored, and they come in the order of those names.
-/
namespace ImportAlias

namespace Selection

/-- No pattern ignores the name. -/
def keeps (s : Selection) (name : Name) : Bool := !ignores s.ignored ⟨name.bytes⟩

/-- The name has a listed extension. -/
def lists (s : Selection) (name : Name) : Bool := ofExtensions s.extensions ⟨name.bytes⟩

/-- A file with a listed extension that stands under names of which none is ignored. -/
def selects (s : Selection) : Place × Node → Bool
  | (names, .file _) => names.all s.keeps && names.getLast?.any s.lists
  | _ => false

/-- Only the last name of a path matters. -/
theorem ignores_eq {p : Path} {name : Name} (h : p.fileName? = some name.bytes)
    (patterns : List Text) : ignores patterns p = ignores patterns ⟨name.bytes⟩ := by
  rw [ignores, ignores, h, Path.fileName?_name]

theorem ofExtensions_eq {p : Path} {name : Name} (h : p.fileName? = some name.bytes)
    (extensions : List Text) :
    ofExtensions extensions p = ofExtensions extensions ⟨name.bytes⟩ := by
  rw [ofExtensions, ofExtensions, h, Path.fileName?_name]

end Selection

namespace Walk
variable {s : Selection} {limits : Limits} {root : Path}

/-- The path is short enough for the directory to be opened. -/
def fits (limits : Limits) (root : Path) (above : List Name) (name : Name) : Bool :=
  limits.admitsPath (root.joined (name :: above).reverse) && limits.admitsName name.bytes

/-- The directory that the names lead to, the last one first, is opened, and so are those on the
way. -/
def opened (s : Selection) (limits : Limits) (root : Path) : List Name → Bool
  | [] => true
  | name :: above => opened s limits root above && s.keeps name && fits limits root above name

theorem opened_nil (s : Selection) (limits : Limits) (root : Path) :
    opened s limits root [] = true := rfl

/-- What becomes of an entry: a file is found, a directory that cannot be opened is an error. -/
def verdict? (s : Selection) (limits : Limits) (root : Path) :
    Place × Node → Option (Except Error Path)
  | (names, node) =>
    match names.reverse with
    | [] => none
    | name :: above =>
      if opened s limits root above && s.keeps name then
        match node with
        | .file _ => if s.lists name then some (.ok (root.joined names)) else none
        | .dir _ =>
          if fits limits root above name then none
          else some (.error (.walk (root.joined names) .tooLong))
        | .link _ => none
      else none

theorem verdict?_eq (above : List Name) (name : Name) (node : Node) :
    verdict? s limits root ((name :: above).reverse, node) =
      if opened s limits root above && s.keeps name then
        match node with
        | .file _ => if s.lists name then some (.ok (root.joined (name :: above).reverse)) else none
        | .dir _ =>
          if fits limits root above name then none
          else some (.error (.walk (root.joined (name :: above).reverse) .tooLong))
        | .link _ => none
      else none := by
  rw [verdict?, List.reverse_reverse]

theorem opened_of_append {names above : List Name}
    (h : opened s limits root (names ++ above) = true) : opened s limits root above = true := by
  induction names with
  | nil => exact h
  | cons name names ih =>
    rw [List.cons_append, opened, Bool.and_assoc, Bool.and_eq_true] at h
    exact ih h.1

/-- Nothing comes of what stands below a directory that is not opened. -/
theorem filterMap_verdict?_eq_nil {f : Folder} {above : List Name}
    (h : opened s limits root above = false) :
    (f.allBelow above).filterMap (verdict? s limits root) = [] := by
  rw [List.filterMap_eq_nil_iff]
  rintro ⟨place, node⟩ he
  obtain ⟨n, -, names, rfl : place = _⟩ := Folder.exists_name_of_mem_allBelow he
  have hreverse : (above.reverse ++ n :: names).reverse = (n :: names).reverse ++ above := by simp
  rw [verdict?, hreverse]
  cases hnames : (n :: names).reverse with
  | nil => simp at hnames
  | cons last before =>
    have hclosed : opened s limits root (before ++ above) = false := by
      cases hopened : opened s limits root (before ++ above) with
      | false => rfl
      | true => exact absurd (opened_of_append hopened) (by simp [h])
    simp [hclosed]

theorem child_joined_reverse (hne : root.bytes ≠ []) (above : List Name) (name : Name) :
    (root.joined above.reverse).child name.bytes = root.joined (name :: above).reverse := by
  rw [Path.child_joined hne, List.reverse_cons]

theorem fileName?_joined_reverse (hne : root.bytes ≠ []) (above : List Name) (name : Name) :
    (root.joined (name :: above).reverse).fileName? = some name.bytes := by
  rw [List.reverse_cons, Path.fileName?_joined hne]

/-- What is read off a folder that is opened is what becomes of the entries below it. -/
theorem map_below (hne : root.bytes ≠ []) (f : Folder) {above : List Name}
    (hopened : opened s limits root above = true) (place : Place) :
    (below s limits f (root.joined above.reverse) place).map (Except.map Prod.fst) =
      (f.allBelow above).filterMap (verdict? s limits root) := by
  induction f generalizing above place with
  | empty => rfl
  | file name content rest ih =>
    have hname := fileName?_joined_reverse hne above name
    rw [below, Folder.allBelow, List.map_append, ih hopened place, List.filterMap_cons,
      verdict?_eq, hopened, Bool.true_and, visit?]
    dsimp only
    rw [child_joined_reverse hne, Selection.ignores_eq hname, Selection.ofExtensions_eq hname]
    cases hignores : Selection.ignores s.ignored ⟨name.bytes⟩ with
    | true => simp [Selection.keeps, hignores]
    | false =>
      cases hlists : Selection.ofExtensions s.extensions ⟨name.bytes⟩ with
      | true => simp [Selection.keeps, Selection.lists, hignores, hlists]; rfl
      | false => simp [Selection.keeps, Selection.lists, hignores, hlists]
  | link name target rest ih =>
    rw [below, Folder.allBelow, ih hopened place, List.filterMap_cons, verdict?_eq]
    simp
  | dir name inside rest ih_inside ih =>
    have hname := fileName?_joined_reverse hne above name
    rw [below, Folder.allBelow, List.map_append, ih hopened place, List.filterMap_append,
      List.filterMap_cons, verdict?_eq, hopened, Bool.true_and]
    dsimp only
    rw [child_joined_reverse hne, Selection.ignores_eq hname]
    have hinner : opened s limits root (name :: above) =
        (s.keeps name && fits limits root above name) := by
      rw [opened, hopened, Bool.true_and]
    cases hignores : Selection.ignores s.ignored ⟨name.bytes⟩ with
    | true =>
      have hkeeps : s.keeps name = false := by rw [Selection.keeps, hignores]; rfl
      rw [hkeeps, Bool.false_and] at hinner
      simp [hkeeps, filterMap_verdict?_eq_nil hinner]
    | false =>
      have hkeeps : s.keeps name = true := by rw [Selection.keeps, hignores]; rfl
      rw [hkeeps, Bool.true_and] at hinner
      rw [← fits]
      cases hfits : fits limits root above name with
      | true =>
        rw [hfits] at hinner
        simp only [hkeeps, if_true, Bool.false_eq_true, if_false, ih_inside hinner]
      | false =>
        rw [hfits] at hinner
        simp only [hkeeps, if_true, Bool.false_eq_true, if_false, filterMap_verdict?_eq_nil hinner]
        rfl

section Root
variable {t : Tree} {inside : Folder}

theorem files_eq_filterMap (hroot : t.lookup .use root = .ok (.dir inside))
    (hinput : isStandardInput root = false) :
    files s t root = .ok ((inside.allBelow []).filterMap (verdict? s t.limits root)) := by
  obtain ⟨place, hlocate⟩ := Tree.exists_locate_of_lookup hroot
  obtain ⟨trail, hreach, -, -⟩ := Tree.exists_reaches hlocate
  have hdir : t.isDir root = true := by rw [Tree.isDir, hroot]
  rw [files_eq hdir, fromRoot, hinput, hlocate]
  exact congrArg Except.ok (map_below hreach.ne_nil inside (opened_nil s t.limits root) place)

theorem all_keeps_of_opened {above : List Name} (h : opened s limits root above = true) :
    above.all s.keeps = true := by
  induction above with
  | nil => rfl
  | cons name above ih =>
    rw [opened, Bool.and_eq_true, Bool.and_eq_true] at h
    rw [List.all_cons, h.1.2, ih h.1.1]
    rfl

/-- A file that is found is one that the selection selects. -/
theorem selects_of_verdict? {e : Place × Node} {p : Path}
    (h : verdict? s limits root e = some (.ok p)) :
    s.selects e = true ∧ p = root.joined e.1 := by
  obtain ⟨names, node⟩ := e
  rw [verdict?] at h
  split at h
  · cases h
  · rename_i name above hreverse
    have hnames : names = above.reverse ++ [name] := by
      rw [← List.reverse_reverse names, hreverse, List.reverse_cons]
    split at h
    · rename_i hkept
      rw [Bool.and_eq_true] at hkept
      have hall := all_keeps_of_opened hkept.1
      cases node with
      | file content =>
        dsimp only at h
        split at h
        · rename_i hlists
          cases h
          refine ⟨?_, rfl⟩
          rw [Selection.selects, hnames, List.all_append, List.all_reverse, hall]
          simp [hkept.2, hlists]
        · cases h
      | dir folder =>
        dsimp only at h
        split at h <;> cases h
      | link target => cases h
    · cases h

theorem mem_map_fst_filter_selects (hordered : inside.Ordered) {names : Place} :
    names ∈ ((inside.allBelow []).filter s.selects).map Prod.fst ↔
      ∃ dir name content, names = dir ++ [name] ∧ inside.find? names = some (.file content) ∧
        Selection.ofExtensions s.extensions ⟨name.bytes⟩ = true ∧
        ∀ n ∈ names, Selection.ignores s.ignored ⟨n.bytes⟩ = false := by
  constructor
  · intro h
    obtain ⟨⟨place, node⟩, he, rfl : place = names⟩ := List.mem_map.1 h
    obtain ⟨hmem, hselects⟩ := List.mem_filter.1 he
    obtain ⟨names, hne, hplace : place = names, hfind⟩ := (Folder.mem_allBelow_iff hordered).1 hmem
    subst hplace
    obtain ⟨dir, name, rfl⟩ := List.eq_nil_or_concat place |>.resolve_left hne
    cases node with
    | file content =>
      rw [Selection.selects, Bool.and_eq_true, List.all_eq_true] at hselects
      refine ⟨dir, name, content, by simp, hfind, ?_, fun n hn => ?_⟩
      · simpa [Selection.lists] using hselects.2
      · simpa [Selection.keeps] using hselects.1 n hn
    | dir folder => cases hselects
    | link target => cases hselects
  · rintro ⟨dir, name, content, rfl, hfind, hlists, hkeeps⟩
    refine List.mem_map.2 ⟨(dir ++ [name], .file content), List.mem_filter.2 ⟨?_, ?_⟩, rfl⟩
    · exact (Folder.mem_allBelow_iff hordered).2 ⟨dir ++ [name], by simp, rfl, hfind⟩
    · rw [Selection.selects, Bool.and_eq_true, List.all_eq_true]
      refine ⟨fun n hn => ?_, ?_⟩
      · rw [Selection.keeps, hkeeps n hn]
        rfl
      · simpa [Selection.lists] using hlists

/-- A path that is found leads to a file below the root. -/
theorem exists_file_of_files (hroot : t.lookup .use root = .ok (.dir inside))
    {found : List (Except Error Path)} (hfiles : files s t root = .ok found) {p : Path}
    (hp : .ok p ∈ found) :
    ∃ dir name content, p = root.joined (dir ++ [name]) ∧
      inside.find? (dir ++ [name]) = some (.file content) := by
  obtain ⟨place, hlocate⟩ := Tree.exists_locate_of_lookup hroot
  have hordered := Folder.ordered_find? t.ordered (Tree.find?_of_locate hlocate)
  cases hinput : isStandardInput root with
  | true =>
    have hdir : t.isDir root = true := by rw [Tree.isDir, hroot]
    rw [files_eq hdir, fromRoot, hinput] at hfiles
    cases hfiles
    cases hp
  | false =>
    rw [files_eq_filterMap hroot hinput] at hfiles
    cases hfiles
    obtain ⟨⟨names, node⟩, he, hverdict⟩ := List.mem_filterMap.1 hp
    obtain ⟨hselects, hpath⟩ := selects_of_verdict? hverdict
    have hchosen := List.mem_map_of_mem (f := Prod.fst) (List.mem_filter.2 ⟨he, hselects⟩)
    obtain ⟨dir, name, content, hnames, hfind, -⟩ :=
      (mem_map_fst_filter_selects hordered).1 hchosen
    exact ⟨dir, name, content, by rw [hpath, hnames], hnames ▸ hfind⟩

/-- Directories that are kept can be opened, however deep they stand. -/
def Openable (s : Selection) (limits : Limits) (root : Path) (inside : Folder) : Prop :=
  ∀ names name folder, inside.find? (names ++ [name]) = some (.dir folder) →
    (names ++ [name]).all s.keeps = true →
      limits.admitsPath (root.joined (names ++ [name])) = true ∧
        limits.admitsName name.bytes = true

theorem opened_of_openable (hopen : Openable s limits root inside) {above : List Name}
    {folder : Folder} (hfind : inside.find? above.reverse = some (.dir folder))
    (hkeeps : above.all s.keeps = true) : opened s limits root above = true := by
  induction above generalizing folder with
  | nil => rfl
  | cons name above ih =>
    rw [List.reverse_cons] at hfind
    obtain ⟨outer, houter⟩ := Folder.exists_dir_of_find?_append (by simp) hfind
    rw [List.all_cons, Bool.and_eq_true] at hkeeps
    have hfits := hopen above.reverse name folder hfind (by simp [hkeeps.1, hkeeps.2])
    rw [opened, ih houter hkeeps.2, hkeeps.1, fits, List.reverse_cons, hfits.1, hfits.2]
    rfl

/-- Where all directories can be opened, the selection alone decides. -/
theorem verdict?_of_openable (hopen : Openable s limits root inside) {names : Place} {node : Node}
    (hne : names ≠ []) (hfind : inside.find? names = some node) :
    verdict? s limits root (names, node) =
      if s.selects (names, node) then some (.ok (root.joined names)) else none := by
  obtain ⟨above, name, rfl⟩ : ∃ above name, names = (name :: above).reverse := by
    cases hreverse : names.reverse with
    | nil => exact absurd (List.reverse_eq_nil_iff.1 hreverse) hne
    | cons name above => exact ⟨above, name, by rw [← hreverse, List.reverse_reverse]⟩
  rw [List.reverse_cons] at hfind
  obtain ⟨folder, hfolder⟩ := Folder.exists_dir_of_find?_append (by simp) hfind
  have hopened : opened s limits root above = above.all s.keeps := by
    cases hkeeps : above.all s.keeps with
    | true => exact opened_of_openable hopen hfolder hkeeps
    | false =>
      cases hopened : opened s limits root above with
      | false => rfl
      | true => exact absurd (all_keeps_of_opened hopened) (by simp [hkeeps])
  rw [verdict?_eq, hopened]
  cases node with
  | file content =>
    rw [Selection.selects, List.reverse_cons, List.all_append, List.all_reverse]
    cases hall : above.all s.keeps <;> cases hkeeps : s.keeps name <;> simp [hkeeps]
  | dir inner =>
    change _ = none
    split
    · rename_i hkept
      rw [Bool.and_eq_true] at hkept
      have hfits := hopen above.reverse name inner hfind (by simp [hkept.1, hkept.2])
      simp [fits, hfits.1, hfits.2]
    · rfl
  | link target => exact ite_self none

/-- The walk yields the selected files among all entries below the root, each once, in the order of
their names from the root down. The selected files are those with a listed extension that stand
under names of which none is ignored. -/
theorem files_eq_filter_allBelow (s : Selection) (t : Tree) (root : Path) (inside : Folder)
    (hroot : t.lookup .use root = .ok (.dir inside)) (hinput : isStandardInput root = false)
    (hopen : Openable s t.limits root inside) :
    let chosen := ((inside.allBelow []).filter s.selects).map Prod.fst
    files s t root = .ok (chosen.map fun names => .ok (root.joined names)) ∧
      (∀ names, names ∈ chosen ↔ ∃ dir name content, names = dir ++ [name] ∧
        inside.find? names = some (.file content) ∧
        Selection.ofExtensions s.extensions ⟨name.bytes⟩ = true ∧
        ∀ n ∈ names, Selection.ignores s.ignored ⟨n.bytes⟩ = false) ∧
      chosen.Pairwise (· < ·) := by
  intro chosen
  obtain ⟨place, hlocate⟩ := Tree.exists_locate_of_lookup hroot
  have hordered := Folder.ordered_find? t.ordered (Tree.find?_of_locate hlocate)
  refine ⟨?_, ?_, ?_⟩
  · rw [files_eq_filterMap hroot hinput]
    have hverdict : ∀ e ∈ inside.allBelow [], verdict? s t.limits root e =
        if s.selects e then some (.ok (root.joined e.1)) else none := by
      rintro ⟨names, node⟩ he
      obtain ⟨names', hne, rfl, hfind⟩ := (Folder.mem_allBelow_iff hordered).1 he
      exact verdict?_of_openable hopen hne hfind
    rw [List.filterMap_congr hverdict, ← List.filterMap_filter, List.map_map]
    exact congrArg Except.ok (congrFun List.filterMap_eq_map _)
  · intro names
    rw [mem_map_fst_filter_selects hordered]
  · exact List.pairwise_map.2 ((Folder.pairwise_allBelow hordered []).filter _)

end Root

section Sample

def sampleSelection : Selection := ⟨["ts".toList], ["sk*".toList]⟩

/-- A folder `a` with a file in it and one beside it, a link and an ignored folder. -/
def sampleFolder : Folder :=
  .dir (.ofText "a".toList) (.file (.ofText "e.ts".toList) [] .empty) <|
    .file (.ofText "a-b.ts".toList) [] <|
      .link (.ofText "l.ts".toList) (Utf8.encode "a".toList) <|
        .dir (.ofText "skip".toList) (.file (.ofText "e.ts".toList) [] .empty) .empty

theorem ordered_sampleFolder : sampleFolder.Ordered := by
  simp only [sampleFolder, Folder.Ordered]
  decide

/-- The file in the folder comes before the one beside it, though `a-b.ts` is before `a/e.ts` as
text. -/
theorem files_sampleFolder :
    files sampleSelection ⟨[], {}, sampleFolder, ordered_sampleFolder⟩ (Path.ofText ".".toList) =
      .ok (["./a/e.ts", "./a-b.ts"].map fun p => .ok (Path.ofText p.toList)) :=
  (files_eq_filter_allBelow sampleSelection ⟨[], {}, sampleFolder, ordered_sampleFolder⟩
    (Path.ofText ".".toList) sampleFolder rfl rfl fun _ _ _ _ _ => ⟨rfl, rfl⟩).1

/-- The file `x.ts` in a folder named `-`. -/
def hyphenTree : Tree where
  cwd := []
  limits := {}
  top := .dir (.ofText "-".toList) (.file (.ofText "x.ts".toList) [] .empty) .empty
  ordered := ⟨by decide, ⟨by decide, trivial⟩, trivial⟩

/-- A slash after the root `-` does not keep it from standing for standard input: the folder of that
name can be opened and holds a file that is selected, and yet nothing is found. -/
theorem files_hyphen_slash :
    let root := Path.ofText "-/".toList
    root ≠ Path.ofText "-".toList ∧
      ∃ inside file, hyphenTree.lookup .use root = .ok (.dir inside) ∧
        Openable sampleSelection hyphenTree.limits root inside ∧
        inside.find? [file] = some (.file []) ∧ sampleSelection.selects ([file], .file []) = true ∧
        files sampleSelection hyphenTree root = .ok [] :=
  ⟨by decide, .file (.ofText "x.ts".toList) [] .empty, .ofText "x.ts".toList, rfl,
    fun _ _ _ _ _ => ⟨rfl, rfl⟩, rfl, rfl, rfl⟩

end Sample

end Walk

end ImportAlias
