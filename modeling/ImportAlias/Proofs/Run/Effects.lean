import ImportAlias.Proofs.Text.Encoding
import ImportAlias.Proofs.Tree.Rewriting
import ImportAlias.Proofs.Walk.Enumeration
import ImportAlias.Run

/-!
# What a run is due to do

What a run has to do to each file is read off the tree that it starts from: `Run.due?` gives the
text that the rule makes of a file, where that is another one. Doing this to files at different
places keeps the shape of the tree, and leaves every other place as it was.
-/
namespace ImportAlias

namespace Tree

/-- The place that a path leads to. -/
def placeOf? (t : Tree) (p : Path) : Option Place :=
  match t.locate .use p with
  | .ok (.taken place _) => some place
  | _ => none

/-- The paths lead to files at different places, whatever they are used for, or to nothing. -/
structure Listed (t : Tree) (paths : List Path) : Prop where
  nodup : (paths.filterMap t.placeOf?).Nodup
  steady : ∀ p ∈ paths, ∀ place, t.placeOf? p = some place →
    ∃ content, ∀ aim, t.locate aim p = .ok (.taken place (.file content))

theorem Listed.sublist {t : Tree} {paths paths' : List Path} (h : t.Listed paths)
    (hsub : paths'.Sublist paths) : t.Listed paths' :=
  ⟨h.nodup.sublist (hsub.filterMap _), fun p hp => h.steady p (hsub.subset hp)⟩

end Tree

namespace Walk

theorem exists_found {found : List (Except Error (Path × Place))} {paths : List Path}
    (h : found.map (Except.map Prod.fst) = paths.map .ok) :
    ∃ files : List (Path × Place), found = files.map .ok ∧ paths = files.map Prod.fst := by
  induction found generalizing paths with
  | nil =>
    cases paths with
    | nil => exact ⟨[], rfl, rfl⟩
    | cons p paths => cases h
  | cons r found ih =>
    cases paths with
    | nil => cases h
    | cons p paths =>
      obtain ⟨hhead, htail⟩ := List.cons.inj h
      obtain ⟨files, rfl, rfl⟩ := ih htail
      cases r with
      | error e => cases hhead
      | ok file =>
        cases hhead
        exact ⟨file :: files, rfl, rfl⟩

theorem placeOf?_of_found {t : Tree} {p : Path} {place : Place} {content : Bytes}
    (h : Found t p place content) :
    ((∀ aim, t.locate aim p = .ok (.taken place (.file content))) ∧
      t.placeOf? p = some place) ∨ t.placeOf? p = none := by
  rcases h.locate with hfile | hlong
  · refine Or.inl ⟨hfile, ?_⟩
    rw [Tree.placeOf?, hfile]
  · refine Or.inr ?_
    rw [Tree.placeOf?, hlong]

theorem sublist_places {t : Tree} {files : List (Path × Place)}
    (h : ∀ file ∈ files, ∃ content, Found t file.1 file.2 content) :
    ((files.map Prod.fst).filterMap t.placeOf?).Sublist (files.map Prod.snd) := by
  induction files with
  | nil => exact List.Sublist.refl []
  | cons file files ih =>
    obtain ⟨⟨content, hfound⟩, hrest⟩ := List.forall_mem_cons.1 h
    rw [List.map_cons, List.map_cons, List.filterMap_cons]
    rcases placeOf?_of_found hfound with ⟨-, hplace⟩ | hnone
    · rw [hplace]
      exact (ih hrest).cons_cons _
    · rw [hnone]
      exact (ih hrest).cons _

/-- The files that a walk comes to before anything goes wrong are listed. -/
theorem listed_of_files {s : Selection} {t : Tree} {root : Path} {paths : List Path}
    {rest : List (Except Error Path)}
    (h : files s t root = .ok (paths.map .ok ++ rest)) : t.Listed paths := by
  rw [files_eq (isDir_of_files h)] at h
  obtain ⟨found, more, hsplit, hfound, -⟩ := List.map_eq_append_iff.1 (Except.ok.inj h)
  obtain ⟨files, rfl, rfl⟩ := exists_found hfound
  have hplaces := nodup_places_fromRoot s t root
  have hall : ∀ file ∈ files, ∃ content, Found t file.1 file.2 content := by
    intro file hfile
    have hmem : .ok file ∈ fromRoot s t root := by
      rw [hsplit]
      exact List.mem_append_left _ (List.mem_map_of_mem hfile)
    exact found_of_mem_fromRoot hmem
  constructor
  · refine List.Nodup.sublist (sublist_places hall) ?_
    rw [hsplit, places_append] at hplaces
    have hfirst := (List.nodup_append.1 hplaces).1
    rw [places, List.filterMap_map] at hfirst
    simpa only [Function.comp_def, Except.toOption, Option.map_some, List.filterMap_eq_map']
      using hfirst
  · intro p hp place hplace
    obtain ⟨file, hfile, rfl⟩ := List.mem_map.1 hp
    obtain ⟨content, hcontent⟩ := hall file hfile
    rcases placeOf?_of_found hcontent with ⟨hlocate, hsome⟩ | hnone
    · rw [hsome] at hplace
      cases hplace
      exact ⟨content, hlocate⟩
    · rw [hnone] at hplace
      cases hplace

end Walk

namespace Document

/-- What is loaded is the text of the file that the path leads to. -/
theorem exists_locate_of_load {t : Tree} {root p : Path} {d : Document}
    (h : load t root p = .ok d) :
    ∃ place bytes, t.locate .use p = .ok (.taken place (.file bytes)) ∧
      Utf8.decode? bytes = some d.text ∧ d.path = p ∧ d.relative = relativeTo root p := by
  rw [load] at h
  cases hread : t.readFile p with
  | error fault =>
    rw [hread] at h
    cases h
  | ok bytes =>
    rw [hread] at h
    dsimp only at h
    cases hdecode : Utf8.decode? bytes with
    | none =>
      rw [hdecode] at h
      cases h
    | some text =>
      rw [hdecode] at h
      cases h
      obtain ⟨place, hlocate⟩ := Tree.exists_locate_of_readFile hread
      exact ⟨place, bytes, hlocate, hdecode, rfl, rfl⟩

end Document

namespace Run

/-- The file holds text. -/
def IsText (t : Tree) (p : Path) : Prop :=
  ∃ bytes text, t.readFile p = .ok bytes ∧ Utf8.decode? bytes = some text

/-- The file holds something that is no text. -/
def NotText (t : Tree) (p : Path) : Prop :=
  ∃ bytes, t.readFile p = .ok bytes ∧ Utf8.decode? bytes = none

section Texts
variable {t : Tree} {p root : Path}

theorem isText_or_notText {place : Place} {bytes : Bytes}
    (h : t.locate .use p = .ok (.taken place (.file bytes))) : IsText t p ∨ NotText t p := by
  have hread := Tree.readFile_of_locate h
  cases hdecode : Utf8.decode? bytes with
  | none => exact Or.inr ⟨bytes, hread, hdecode⟩
  | some text => exact Or.inl ⟨bytes, text, hread, hdecode⟩

theorem isText_of_load {d : Document} (h : Document.load t root p = .ok d) : IsText t p := by
  obtain ⟨place, bytes, hlocate, hdecode, -⟩ := Document.exists_locate_of_load h
  exact ⟨bytes, d.text, Tree.readFile_of_locate hlocate, hdecode⟩

/-- A text can be loaded. -/
theorem load_ne_error (h : IsText t p) (root : Path) (e : Error) :
    Document.load t root p ≠ .error e := by
  intro hload
  obtain ⟨bytes, text, hread, hdecode⟩ := h
  simp [Document.load, hread, hdecode] at hload

theorem load_of_notText (h : NotText t p) (root : Path) :
    Document.load t root p = .error (.notText p) := by
  obtain ⟨bytes, hread, hdecode⟩ := h
  simp [Document.load, hread, hdecode]

end Texts

/-- A write to be made, and the change to be told of after it. -/
structure Due where
  write : Write
  change : Change

/-- What is to be done to the file that a path leads to: nothing, if it is no text or the rule
gives back the text that it holds. -/
def due? (s : Settings) (t : Tree) (p : Path) : Option Due :=
  match t.locate .use p with
  | .ok (.taken place (.file bytes)) =>
    (Utf8.decode? bytes).bind fun text =>
      let relative := Document.relativeTo s.root p
      let sub := ((Rule.ofSettings s).apply relative text).1
      if sub.result text = text then none
      else some
        { write := { path := p, place, text := sub.result text }
          change := { path := p, relative := relative.display, count := sub.count } }
  | _ => none

def dues (s : Settings) (t : Tree) (paths : List Path) : List Due := paths.filterMap (due? s t)

/-- The tree with one write made. -/
def Due.apply (t : Tree) (d : Due) : Tree := t.put d.write.place (.file (Utf8.encode d.write.text))

/-- The tree with the writes made in order. -/
def applyAll (t : Tree) (ds : List Due) : Tree := ds.foldl Due.apply t

section Trees
variable {s : Settings} {t : Tree}

/-- The writes go to files at different places. -/
structure Placed (t : Tree) (ds : List Due) : Prop where
  nodup : (ds.map fun d => d.write.place).Nodup
  file : ∀ d ∈ ds, ∃ content, t.entryAt d.write.place = some (.file content)

theorem Placed.of_cons {d : Due} {ds : List Due} (h : Placed t (d :: ds)) :
    (∃ content, t.find? d.write.place = some (.file content)) ∧
      (∀ d' ∈ ds, d'.write.place ≠ d.write.place) ∧ Placed (d.apply t) ds := by
  obtain ⟨hnot, hnodup⟩ := List.nodup_cons.1 h.nodup
  obtain ⟨⟨content, hcontent⟩, hrest⟩ := List.forall_mem_cons.1 h.file
  have hfile := Tree.entryAt_eq_file_iff.1 hcontent
  have hne : ∀ d' ∈ ds, d'.write.place ≠ d.write.place := by
    intro d' hd' heq
    exact hnot (List.mem_map.2 ⟨d', hd', heq⟩)
  refine ⟨⟨content, hfile⟩, hne, hnodup, ?_⟩
  intro d' hd'
  rw [Due.apply, Tree.entryAt_put_file_of_ne hfile _ (hne d' hd')]
  exact hrest d' hd'

theorem shape_applyAll {ds : List Due} (h : Placed t ds) : (applyAll t ds).shape = t.shape := by
  induction ds generalizing t with
  | nil => rfl
  | cons d ds ih =>
    obtain ⟨⟨content, hfile⟩, -, hrest⟩ := h.of_cons
    rw [applyAll, List.foldl_cons]
    exact (ih hrest).trans (Tree.shape_put_file hfile _)

theorem entryAt_applyAll_of_ne {ds : List Due} (h : Placed t ds) {place : Place}
    (hne : ∀ d ∈ ds, d.write.place ≠ place) :
    (applyAll t ds).entryAt place = t.entryAt place := by
  induction ds generalizing t with
  | nil => rfl
  | cons d ds ih =>
    obtain ⟨⟨content, hfile⟩, -, hrest⟩ := h.of_cons
    obtain ⟨hfirst, hmore⟩ := List.forall_mem_cons.1 hne
    rw [applyAll, List.foldl_cons]
    exact (ih hrest hmore).trans (Tree.entryAt_put_file_of_ne hfile _ (Ne.symm hfirst))

theorem entryAt_applyAll_of_mem {ds : List Due} (h : Placed t ds) {d : Due} (hd : d ∈ ds) :
    (applyAll t ds).entryAt d.write.place = some (.file (Utf8.encode d.write.text)) := by
  induction ds generalizing t with
  | nil => cases hd
  | cons first ds ih =>
    obtain ⟨⟨content, hfile⟩, hne, hrest⟩ := h.of_cons
    rw [applyAll, List.foldl_cons]
    rcases List.mem_cons.1 hd with rfl | hd
    · exact (entryAt_applyAll_of_ne hrest hne).trans (Tree.entryAt_put_file hfile _)
    · exact ih hrest hd

/-- What is due, and the text that it is due to. -/
theorem exists_of_due? {p : Path} {d : Due} (h : due? s t p = some d) :
    ∃ place bytes old, t.locate .use p = .ok (.taken place (.file bytes)) ∧
      Utf8.decode? bytes = some old ∧
      let relative := Document.relativeTo s.root p
      let sub := ((Rule.ofSettings s).apply relative old).1
      sub.result old ≠ old ∧
        d = { write := { path := p, place, text := sub.result old }
              change := { path := p, relative := relative.display, count := sub.count } } := by
  rw [due?] at h
  split at h
  · rename_i place bytes hlocate
    obtain ⟨old, hdecode, h⟩ := Option.bind_eq_some_iff.1 h
    dsimp only at h
    split at h
    · cases h
    · rename_i hother
      cases h
      exact ⟨place, bytes, old, hlocate, hdecode, hother, rfl⟩
  · cases h

theorem due?_of_locate {p : Path} {place : Place} {bytes : Bytes}
    (h : t.locate .use p = .ok (.taken place (.file bytes))) {text : Text}
    (htext : Utf8.decode? bytes = some text) :
    due? s t p =
      let relative := Document.relativeTo s.root p
      let sub := ((Rule.ofSettings s).apply relative text).1
      if sub.result text = text then none
      else some
        { write := { path := p, place, text := sub.result text }
          change := { path := p, relative := relative.display, count := sub.count } } := by
  simp [due?, h, htext]

theorem due?_eq_of_locate_eq {t' : Tree} {p : Path} (h : t'.locate .use p = t.locate .use p) :
    due? s t' p = due? s t p := by
  rw [due?, due?, h]

theorem isText_of_due? {p : Path} {d : Due} (h : due? s t p = some d) : IsText t p := by
  obtain ⟨place, bytes, old, hlocate, hdecode, -⟩ := exists_of_due? h
  exact ⟨bytes, old, Tree.readFile_of_locate hlocate, hdecode⟩

/-- What is due puts other bytes into the file that the path leads to. -/
theorem due?_eq_some {p : Path} {d : Due} (h : due? s t p = some d) :
    t.placeOf? p = some d.write.place ∧
      ∃ content, t.locate .use p = .ok (.taken d.write.place (.file content)) ∧
        content ≠ Utf8.encode d.write.text := by
  obtain ⟨place, bytes, old, hlocate, hdecode, hother, rfl⟩ := exists_of_due? h
  refine ⟨by rw [Tree.placeOf?, hlocate], bytes, hlocate, ?_⟩
  rintro rfl
  rw [Utf8.decode?_encode] at hdecode
  exact hother (Option.some.inj hdecode)

theorem dues_concat (s : Settings) (t : Tree) (done : List Path) (p : Path) :
    dues s t (done ++ [p]) = dues s t done ++ (due? s t p).toList := by
  rw [dues, List.filterMap_append, List.filterMap_cons]
  cases due? s t p <;> rfl

theorem dues_concat_of_none {p : Path} (h : due? s t p = none) (done : List Path) :
    dues s t (done ++ [p]) = dues s t done := by
  rw [dues_concat, h]
  exact List.append_nil _

theorem dues_concat_of_some {p : Path} {d : Due} (h : due? s t p = some d) (done : List Path) :
    dues s t (done ++ [p]) = dues s t done ++ [d] := by
  rw [dues_concat, h]
  rfl

theorem sublist_places_dues (s : Settings) (t : Tree) (paths : List Path) :
    ((dues s t paths).map fun d => d.write.place).Sublist (paths.filterMap t.placeOf?) := by
  induction paths with
  | nil => exact List.Sublist.refl []
  | cons p paths ih =>
    rw [dues, List.filterMap_cons, List.filterMap_cons]
    cases hdue : due? s t p with
    | none =>
      cases t.placeOf? p with
      | none => exact ih
      | some place => exact ih.cons _
    | some d =>
      rw [(due?_eq_some hdue).1]
      exact ih.cons_cons _

theorem placed_dues {paths : List Path} (h : t.Listed paths) : Placed t (dues s t paths) := by
  refine ⟨h.nodup.sublist (sublist_places_dues s t paths), ?_⟩
  intro d hd
  obtain ⟨p, -, hdue⟩ := List.mem_filterMap.1 hd
  obtain ⟨-, content, hlocate, -⟩ := due?_eq_some hdue
  exact ⟨content, Tree.entryAt_eq_file_iff.2 (Tree.find?_of_locate hlocate)⟩

/-- The place of each write holds something else before. -/
theorem entryAt_ne_of_mem_dues {paths : List Path} {d : Due} (hd : d ∈ dues s t paths) :
    t.entryAt d.write.place ≠ some (.file (Utf8.encode d.write.text)) := by
  obtain ⟨p, -, hdue⟩ := List.mem_filterMap.1 hd
  obtain ⟨-, content, hlocate, hne⟩ := due?_eq_some hdue
  rw [Tree.entryAt_eq_file_iff.2 (Tree.find?_of_locate hlocate)]
  intro heq
  cases heq
  exact hne rfl

theorem cwd_limits_applyAll (t : Tree) (ds : List Due) :
    (applyAll t ds).cwd = t.cwd ∧ (applyAll t ds).limits = t.limits := by
  induction ds generalizing t with
  | nil => exact ⟨rfl, rfl⟩
  | cons d ds ih =>
    obtain ⟨hcwd, hlimits⟩ := ih (d.apply t)
    exact ⟨hcwd.trans (Tree.cwd_put ..), hlimits.trans (Tree.limits_put ..)⟩

/-- What is done to other files does not change where a path leads and what stands there. -/
theorem locate_applyAll {done : List Path} {p : Path} (h : t.Listed (done ++ [p])) {place : Place}
    (hplace : t.placeOf? p = some place) :
    ∃ content, ∀ aim, t.locate aim p = .ok (.taken place (.file content)) ∧
      (applyAll t (dues s t done)).locate aim p = .ok (.taken place (.file content)) := by
  have hdone := h.sublist (List.sublist_append_left done [p])
  have hplaced := placed_dues (s := s) hdone
  obtain ⟨content, hlocate⟩ := h.steady p (by simp) place hplace
  refine ⟨content, fun aim => ⟨hlocate aim, ?_⟩⟩
  refine Tree.locate_file_of_shape_eq (shape_applyAll hplaced) (hlocate aim) ?_
  have hnot : place ∉ done.filterMap t.placeOf? := by
    have hnodup := h.nodup
    rw [List.filterMap_append, List.nodup_append] at hnodup
    intro hmem
    exact hnodup.2.2 place hmem place (by simp [hplace]) rfl
  have hkept : (applyAll t (dues s t done)).entryAt place = t.entryAt place := by
    refine entryAt_applyAll_of_ne hplaced ?_
    intro d hd heq
    have hmem := (sublist_places_dues s t done).subset (List.mem_map_of_mem hd)
    exact hnot (heq ▸ hmem)
  rw [hkept]
  exact Tree.entryAt_eq_file_iff.2 (Tree.find?_of_locate (hlocate aim))

end Trees

end Run

end ImportAlias
