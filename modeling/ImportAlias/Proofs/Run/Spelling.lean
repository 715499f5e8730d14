import ImportAlias.Proofs.Run.Accounting
import ImportAlias.Proofs.Run.Parallel
import ImportAlias.Proofs.Run.Repetition
import ImportAlias.Proofs.Walk.Respelling

/-!
# How the root is spelled does not matter

A run takes its root as it is spelled, and tells of its files by the names below the root. Whatever
happens to the tree meanwhile, the root can be taken off each path that the run comes to, and what
is left of the path are names. Two runs from one directory, under two spellings of it, do the same
to the tree and tell of the same changes, except for the beginning of the paths.
-/
namespace ImportAlias
open ImportAlias.Tree (spell)

/-- The error, told of another path. -/
def Error.at (p : Path) : Error → Error
  | .rootMissing _ => .rootMissing p
  | .walk _ fault => .walk p fault
  | .read _ fault => .read p fault
  | .notText _ => .notText p
  | .write _ fault => .write p fault
  | .output reason => .output reason

/-- One error, told of one entry below two roots. -/
def Error.Respelled (root root' : Path) (e e' : Error) : Prop :=
  ∃ names, e = e.at (root.joined names) ∧ e' = e.at (root'.joined names)

def Settings.withRoot (s : Settings) (root : Path) : Settings := { s with root }

namespace Path

/-- The root can be taken off the path, and the names are what is left. -/
structure Strips (root p : Path) (names : Place) : Prop where
  path : p = root.joined names
  below? : p.below? root = some ⟨spell names⟩
  relativeTo : Document.relativeTo root p = ⟨spell names⟩
  components : components ⟨spell names⟩ = names.map fun name => .name name.bytes

theorem components_spell (names : Place) :
    components ⟨spell names⟩ = names.map fun name => .name name.bytes := by
  by_cases hnames : names = []
  · subst hnames
    decide
  · rw [Path.components, head?_spell hnames, body_spell hnames, filter_names, List.map_map]
    simp [Function.comp_def, component_name]

theorem strips_joined {root : Path} (hne : root.bytes ≠ []) (names : Place) :
    Strips root (root.joined names) names :=
  ⟨rfl, below?_joined hne names, relativeTo_joined hne names, components_spell names⟩

end Path

namespace Run

/-- Two summaries that count the same and tell of the same changes by the names below the root. -/
structure Agree (summary summary' : Summary) : Prop where
  filesScanned : summary.filesScanned = summary'.filesScanned
  filesChanged : summary.filesChanged = summary'.filesChanged
  importsChanged : summary.importsChanged = summary'.importsChanged
  changes : summary.changes.map (fun c => (c.relative, c.count)) =
    summary'.changes.map fun c => (c.relative, c.count)

/-- What a due does, however its path is spelled. -/
structure Effect where
  place : Place
  text : Text
  relative : Text
  count : Nat

def Due.effect (d : Due) : Effect :=
  ⟨d.write.place, d.write.text, d.change.relative, d.change.count⟩

section Effects
variable {s s' : Settings} {t : Tree} {done done' : List Path}

theorem InStep.treeAfter_eq (h : InStep Due.effect s s' t done done')
    (hdry : s.dryRun = s'.dryRun) :
    treeAfter s t done = treeAfter s' t done' := by
  have happly : ∀ ds : List Due, applyAll t ds =
      (ds.map Due.effect).foldl (fun t e => t.put e.place (.file (Utf8.encode e.text))) t := by
    intro ds
    rw [applyAll, List.foldl_map]
    rfl
  rw [treeAfter, treeAfter, hdry, happly, happly, h.dues]

theorem InStep.agree (h : InStep Due.effect s s' t done done') :
    Agree (tally s t done) (tally s' t done') := by
  have hchanges : ∀ ds : List Due, (ds.map Due.change).map (fun c => (c.relative, c.count)) =
      (ds.map Due.effect).map fun e => (e.relative, e.count) := by
    intro ds
    rw [List.map_map, List.map_map]
    rfl
  have hcounts : ∀ ds : List Due, (ds.map Due.change).foldl (fun n c => n + c.count) 0 =
      (ds.map Due.effect).foldl (fun n e => n + e.count) 0 := by
    intro ds
    rw [List.foldl_map, List.foldl_map]
    rfl
  constructor
  · exact h.length
  · simpa [tally] using congrArg List.length h.dues
  · simp only [tally, hcounts, h.dues]
  · simp only [tally, hchanges, h.dues]

end Effects

section Alike
variable {E : Error → Error → Prop} {s s' : Settings} {t : Tree} {p p' : Path}

/-- Two paths that lead to the same place, and are called the same below the roots, fare alike. -/
theorem alike_of_locate_eq (hrule : Rule.ofSettings s = Rule.ofSettings s')
    (hlocate : t.locate .use p = t.locate .use p')
    (hrelative : Document.relativeTo s.root p = Document.relativeTo s'.root p')
    (hunread : ∀ fault, E (.read p fault) (.read p' fault))
    (hnoText : E (.notText p) (.notText p')) :
    Alike E Due.effect s s' t (.ok p) (.ok p') := by
  have hread : t.readFile p = t.readFile p' := Tree.readFile_eq_of_locate_eq hlocate
  cases hbytes : t.readFile p' with
  | error fault =>
    rw [hbytes] at hread
    refine .unreadable ?_ ?_ (hunread fault)
    · rw [Document.load, hread]
    · rw [Document.load, hbytes]
  | ok bytes =>
    rw [hbytes] at hread
    cases htext : Utf8.decode? bytes with
    | none =>
      refine .unreadable ?_ ?_ hnoText
      · simp only [Document.load, hread, htext]
      · simp only [Document.load, hbytes, htext]
    | some text =>
      refine .text ⟨bytes, text, hread, htext⟩ ⟨bytes, text, hbytes, htext⟩ ?_
      obtain ⟨place, hplace⟩ := Tree.exists_locate_of_readFile hbytes
      rw [due?_of_locate (hlocate.trans hplace) htext, due?_of_locate hplace htext, hrule,
        hrelative]
      dsimp only
      split
      · rfl
      · rfl

/-- A file fares alike under both spellings of the root. -/
theorem alike_of_counterpart {root' : Path} {place : Place} {inside : Folder}
    (h : Walk.Respelled t s.root root' place inside) {found found' : Except Error Path}
    (hpart : Walk.Counterpart s.selection t s.root root' inside found found') :
    Alike (Error.Respelled s.root root') Due.effect s (s.withRoot root') t found found' := by
  cases hpart with
  | tooLong names => exact .failed ⟨names, rfl, rfl⟩
  | @file dir name content hfind hopened =>
    have hrelative := Path.relativeTo_joined h.ne_nil.1 (dir ++ [name])
    have hrelative' := Path.relativeTo_joined h.ne_nil.2 (dir ++ [name])
    exact alike_of_locate_eq rfl (h.locate_eq hfind hopened) (hrelative.trans hrelative'.symm)
      (fun fault => ⟨dir ++ [name], rfl, rfl⟩) ⟨dir ++ [name], rfl, rfl⟩

end Alike

/-- The root can be taken off every path that a run comes to, and names are left; in a tree that
stays as it is they are the names of the entries that lead to a file. Two runs from the same tree
under two spellings of the root, which their listeners neither interfere with nor stop, leave the
same tree behind, and come to the same error of the same entry, or to summaries that agree. Listeners
that never fail stop no run (`result?_heard_ne_output`). -/
theorem run_respelled {σ τ : Type} (l : Listener σ) (l' : Listener τ) (a : σ) (a' : τ)
    (s : Settings) (t : Tree) (root' : Path) (place : Place) (inside : Folder)
    (budget budget' : Nat) (h : Walk.Respelled t s.root root' place inside) :
    let out := heard budget l a s t
    let out' := heard budget' l' a' (s.withRoot root') t
    (∀ p ∈ out.state.visited, ∃ names, Path.Strips s.root p names) ∧
      (∃ found, Walk.files s.selection t s.root = .ok found ∧
        ∀ p, .ok p ∈ found → ∃ dir name content, Path.Strips s.root p (dir ++ [name]) ∧
          inside.find? (dir ++ [name]) = some (.file content)) ∧
      (l.Passive → l'.Passive → Walk.budget t ≤ budget → Walk.budget t ≤ budget' →
        (∀ reason, out.result? ≠ some (.error (.output reason))) →
        (∀ reason, out'.result? ≠ some (.error (.output reason))) →
        out.state.tree = out'.state.tree ∧
          ((∃ e e', Error.Respelled s.root root' e e' ∧ out.result? = some (.error e) ∧
              out'.result? = some (.error e')) ∨
            ∃ summary summary', Agree summary summary' ∧ out.result? = some (.ok summary) ∧
              out'.result? = some (.ok summary'))) := by
  intro out out'
  have hlookup := Tree.lookup_of_locate h.locate
  have hdir : t.isDir s.root = true := by rw [Tree.isDir, hlookup]
  obtain ⟨found, found', hfiles, hfiles', hparts⟩ := h.exists_files s.selection
  refine ⟨?_, ⟨found, hfiles, ?_⟩, ?_⟩
  · intro p hp
    obtain ⟨places, hvisited, -⟩ := frontier_visited l a hdir budget
    rw [hvisited] at hp
    obtain ⟨names, -, rfl⟩ := List.mem_map.1 hp
    exact ⟨names, Path.strips_joined h.ne_nil.1 names⟩
  · intro p hp
    obtain ⟨dir, name, content, rfl, hfind⟩ := Walk.exists_file_of_files hlookup hfiles hp
    exact ⟨dir, name, content, Path.strips_joined h.ne_nil.1 _, hfind⟩
  · intro hpassive hpassive' hbudget hbudget' htakes htakes'
    have halike := hparts.imp fun _ _ hpart => alike_of_counterpart h hpart
    obtain ⟨done, done', hcame, hcame', hstep, hend⟩ := exists_inStep halike hfiles hfiles'
      hpassive hpassive' hbudget hbudget' htakes htakes'
    constructor
    · rw [hcame.tree, hcame'.tree]
      exact hstep.treeAfter_eq rfl
    · rcases hend with ⟨e, e', hsame, herror, herror'⟩ | ⟨hok, hok'⟩
      · exact Or.inl ⟨e, e', hsame, herror, herror'⟩
      · exact Or.inr ⟨_, _, hstep.agree, hok, hok'⟩

section Sample

/-- A text to be rewritten, in a folder of the working directory. -/
def spelledFolder : Folder :=
  .file (.ofText "j.ts".toList) (Utf8.encode "from './lib/j'".toList) .empty

def spelledTree : Tree where
  cwd := []
  limits := {}
  top := .dir (.ofText "w".toList) spelledFolder .empty
  ordered := ⟨by decide, ⟨by decide, trivial⟩, trivial⟩

def spelledSettings : Settings := { root := Path.ofText "w".toList }

theorem respelled_sample : Walk.Respelled spelledTree spelledSettings.root
    (Path.ofText "/.//w/./".toList) [.ofText "w".toList] spelledFolder :=
  ⟨rfl, rfl, rfl, rfl, fun _ _ _ => rfl⟩

def spelledSummary (root : String) (path : String) : Summary :=
  { Summary.start (spelledSettings.withRoot (Path.ofText root.toList)) with
    filesScanned := 1
    filesChanged := 1
    importsChanged := 1
    changes := [{ path := Path.ofText path.toList, relative := "j.ts".toList, count := 1 }] }

/-- The text is rewritten, whether the folder is `w` or `/.//w/./`. -/
theorem run_respelled_sample :
    let out := heard 10 (reporting (Path.ofText "/".toList)) .silent spelledSettings spelledTree
    let out' := heard 10 (reporting (Path.ofText "/".toList)) .json
      (spelledSettings.withRoot (Path.ofText "/.//w/./".toList)) spelledTree
    out.result? = some (.ok (spelledSummary "w" "w/j.ts")) ∧
      out'.result? = some (.ok (spelledSummary "/.//w/./" "/.//w/./j.ts")) ∧
      (∀ p ∈ out.state.visited, ∃ names, Path.Strips spelledSettings.root p names) ∧
      out.state.tree = out'.state.tree ∧
      ∃ summary summary', Agree summary summary' ∧ out.result? = some (.ok summary) ∧
        out'.result? = some (.ok summary') := by
  have hok : (heard 10 (reporting (Path.ofText "/".toList)) .silent spelledSettings
      spelledTree).result? = some (.ok (spelledSummary "w" "w/j.ts")) := by
    decide +kernel
  have hok' : (heard 10 (reporting (Path.ofText "/".toList)) .json
      (spelledSettings.withRoot (Path.ofText "/.//w/./".toList)) spelledTree).result? =
      some (.ok (spelledSummary "/.//w/./" "/.//w/./j.ts")) := by
    decide +kernel
  have hpassive := passive_reporting (Path.ofText "/".toList)
  obtain ⟨hvisited, -, hsame⟩ := run_respelled (reporting (Path.ofText "/".toList))
    (reporting (Path.ofText "/".toList)) .silent .json spelledSettings spelledTree _ _ _ 10 10
    respelled_sample
  obtain ⟨htree, hend⟩ := hsame hpassive hpassive (by decide) (by decide)
    (result?_reporting_ne_output (by simp) _ _ _)
    (fun reason houtput => by rw [hok'] at houtput; cases houtput)
  refine ⟨hok, hok', hvisited, htree, ?_⟩
  rcases hend with ⟨e, e', -, herror, -⟩ | hagree
  · rw [hok] at herror
    cases herror
  · exact hagree

/-- A slash after `-` does not make a difference to what the root stands for, and a dot before it
does: under one spelling of the folder nothing is found, under the other one file. -/
theorem filesScanned_hyphen_slash :
    let run (root : String) := heard 10 (reporting (Path.ofText "/".toList)) .silent
      (({} : Settings).withRoot (Path.ofText root.toList)) Walk.hyphenTree
    let scanned (root : String) := (run root).result?.bind fun result =>
      result.toOption.map Summary.filesScanned
    Path.ofText "-/".toList ≠ Path.ofText "-".toList ∧
      Path.ofText "./-".toList ≠ Path.ofText "-".toList ∧
      Walk.hyphenTree.locate .use (Path.ofText "-/".toList) =
        Walk.hyphenTree.locate .use (Path.ofText "./-".toList) ∧
      Walk.hyphenTree.isDir (Path.ofText "-/".toList) = true ∧
      scanned "-/" = some 0 ∧ scanned "./-" = some 1 := by
  decide +kernel

/-- No path has more than seven bytes. -/
def boundedTree : Tree := { spelledTree with limits := { path? := some 7 } }

/-- The bound is met below `w` and not below `./w`, though both lead to the same folder and neither
stands for standard input: the text is rewritten under the one root and cannot be read under the
other. -/
theorem result?_dot_slash_bounded :
    let run (root : String) := heard 10 (reporting (Path.ofText "/".toList)) .silent
      (spelledSettings.withRoot (Path.ofText root.toList)) boundedTree
    boundedTree.locate .use (Path.ofText "w".toList) =
        boundedTree.locate .use (Path.ofText "./w".toList) ∧
      boundedTree.isDir (Path.ofText "w".toList) = true ∧
      Walk.isStandardInput (Path.ofText "w".toList) = false ∧
      Walk.isStandardInput (Path.ofText "./w".toList) = false ∧
      (run "w").result? = some (.ok (spelledSummary "w" "w/j.ts")) ∧
      (run "./w").result? = some (.error (.read (Path.ofText "./w/j.ts".toList) .tooLong)) := by
  decide +kernel

end Sample

end Run

end ImportAlias
