import ImportAlias.Proofs.Redirect.Repetition
import ImportAlias.Proofs.Rule.Idempotence
import ImportAlias.Proofs.Run.Course
import Mathlib.Data.List.Nodup

/-!
# A second run

A run that ends well leaves a tree of the shape that it found, in which each file of the walk holds
what the rule made of it. If the rule gives back whatever it has made, nothing is due in that tree:
a second run comes through the same files, and is as `Run.Quiet` says.
-/
namespace ImportAlias

/-- The rule gives back every text that it has made. -/
def Rule.Settles (rule : Rule) : Prop :=
  ∀ relative given, rule.output relative (rule.output relative given) = rule.output relative given

theorem Rule.settles_consolidate {target : Text} (hclosed : Redirect.Closed target) :
    (Rule.consolidate (.legacy target)).Settles :=
  fun _ given => Redirect.result_apply_legacy hclosed given

theorem Tree.Listed.eq_of_placeOf? {t : Tree} {paths : List Path} (h : t.Listed paths)
    {p q : Path} (hp : p ∈ paths) (hq : q ∈ paths) {place : Place}
    (hpPlace : t.placeOf? p = some place) (hqPlace : t.placeOf? q = some place) : p = q := by
  obtain ⟨before, after, rfl⟩ := List.append_of_mem hp
  have hnodup := h.nodup
  rw [List.filterMap_append, List.filterMap_cons_some hpPlace, List.nodup_middle, List.nodup_cons,
    ← List.filterMap_append] at hnodup
  by_contra hne
  refine hnodup.1 (List.mem_filterMap.2 ⟨q, ?_, hqPlace⟩)
  simp only [List.mem_append, List.mem_cons] at hq ⊢
  rcases hq with hbefore | heq | hafter
  · exact Or.inl hbefore
  · exact absurd heq.symm hne
  · exact Or.inr hafter

namespace Run

section Trees
variable {s : Settings} {t : Tree} {paths : List Path} {p : Path} {place : Place} {bytes : Bytes}
  {text : Text}

/-- Nothing is due to a text that the rule gives back. -/
theorem isText_and_due?_eq_none (hlocate : t.locate .use p = .ok (.taken place (.file bytes)))
    (hdecode : Utf8.decode? bytes = some text)
    (hsame : (Rule.ofSettings s).output (Document.relativeTo s.root p) text = text) :
    IsText t p ∧ due? s t p = none := by
  constructor
  · exact ⟨bytes, text, Tree.readFile_of_locate hlocate, hdecode⟩
  · rw [due?_of_locate hlocate hdecode]
    exact if_pos hsame

/-- A file that nothing is due to is left as it is by what is done to the others. -/
theorem entryAt_applyAll_of_due?_eq_none (hlisted : t.Listed paths) (hp : p ∈ paths)
    (hplace : t.placeOf? p = some place) (hdue : due? s t p = none) :
    (applyAll t (dues s t paths)).entryAt place = t.entryAt place := by
  refine entryAt_applyAll_of_ne (placed_dues hlisted) ?_
  rintro d hd rfl
  obtain ⟨q, hq, hdue'⟩ := List.mem_filterMap.1 hd
  obtain rfl := hlisted.eq_of_placeOf? hp hq hplace (due?_eq_some hdue').1
  rw [hdue] at hdue'
  cases hdue'

/-- What is due has been done: each text is still one, and the rule has done with it. -/
theorem isText_applyAll (hsettles : (Rule.ofSettings s).Settles) (hlisted : t.Listed paths)
    (hp : p ∈ paths) (htext : IsText t p) :
    IsText (applyAll t (dues s t paths)) p ∧ due? s (applyAll t (dues s t paths)) p = none := by
  obtain ⟨bytes, text, hread, hdecode⟩ := htext
  obtain ⟨place, hlocate⟩ := Tree.exists_locate_of_readFile hread
  have hplaced := placed_dues (s := s) hlisted
  have hshape := shape_applyAll hplaced
  have hdue := due?_of_locate (s := s) hlocate hdecode
  dsimp only at hdue
  split at hdue
  · rename_i hsame
    have hplace : t.placeOf? p = some place := by rw [Tree.placeOf?, hlocate]
    have hentry := entryAt_applyAll_of_due?_eq_none hlisted hp hplace hdue
    rw [Tree.entryAt_eq_file_iff.2 (Tree.find?_of_locate hlocate)] at hentry
    have hnow := Tree.locate_file_of_shape_eq hshape hlocate hentry
    exact isText_and_due?_eq_none hnow hdecode hsame
  · have hentry := entryAt_applyAll_of_mem hplaced (List.mem_filterMap.2 ⟨p, hp, hdue⟩)
    have hnow := Tree.locate_file_of_shape_eq hshape hlocate hentry
    exact isText_and_due?_eq_none hnow (Utf8.decode?_encode _) (hsettles _ _)

end Trees

/-- The walk through a tree comes to some texts, and nothing is due to any of them. -/
structure AtRest (s : Settings) (t : Tree) (paths : List Path) : Prop where
  files : Walk.files s.selection t s.root = .ok (paths.map .ok)
  text : ∀ p ∈ paths, IsText t p
  idle : ∀ p ∈ paths, due? s t p = none

/-- A run through `n` files of a tree that finds nothing to do. -/
structure Quiet {σ : Type} (s : Settings) (t : Tree) (n : Nat) (out : Outcome σ) : Prop where
  tree : out.state.tree = t
  writes : out.state.writes = []
  ends : ∃ summary, out.result? = some (.ok summary) ∧
    out.state.events = [.start s, .finish summary] ∧ summary.filesScanned = n ∧
    summary.filesChanged = 0 ∧ summary.importsChanged = 0

section Runs
variable {σ : Type} {l : Listener σ} {s : Settings} {t : Tree} {paths : List Path} {last : State σ}

theorem AtRest.dues_eq_nil (h : AtRest s t paths) : dues s t paths = [] :=
  List.filterMap_eq_nil_iff.2 h.idle

/-- Where nothing is due, a run that has come through all files has nothing to tell. -/
theorem AtRest.quiet (h : AtRest s t paths) (hpassive : l.Passive) {a : σ} (hledger : Ledger l a s t paths last)
    (hpending : last.pending = [])
    (hanswer : last.world.answer? l (.finish (tally s t paths)) = none) :
    Quiet s t paths.length (step l s last) := by
  have hdues := h.dues_eq_nil
  obtain ⟨htree, hwrites, hevents, hresult⟩ := hledger.step_finish hpassive hpending
  rw [hanswer] at hresult
  constructor
  · rw [htree, treeAfter, hdues]
    exact ite_self t
  · rw [hwrites, hledger.writes, hdues]
    exact ite_self []
  · refine ⟨tally s t paths, hresult, ?_, rfl, ?_, ?_⟩
    · rw [hevents, hledger.events, hdues]
      rfl
    · rw [tally, hdues]
      rfl
    · rw [tally, hdues]
      rfl

/-- What is due to all files has been done, and the tree is at rest. -/
theorem atRest_treeAfter (hsettles : (Rule.ofSettings s).Settles) (hdry : s.dryRun = false)
    (hfiles : Walk.files s.selection t s.root = .ok (paths.map .ok))
    (htext : ∀ p ∈ paths, IsText t p) :
    AtRest s (treeAfter s t paths) paths ∧ (treeAfter s t paths).shape = t.shape := by
  have hlisted : t.Listed paths :=
    Walk.listed_of_files (hfiles.trans (by rw [List.append_nil]))
  have hshape := shape_treeAfter (s := s) hlisted
  have htree : treeAfter s t paths = applyAll t (dues s t paths) := by rw [treeAfter, hdry]; rfl
  refine ⟨⟨?_, ?_, ?_⟩, hshape⟩
  · rw [Walk.files_eq_of_shape_eq hshape, hfiles]
  · intro p hp
    rw [htree]
    exact (isText_applyAll hsettles hlisted hp (htext p hp)).1
  · intro p hp
    rw [htree]
    exact (isText_applyAll hsettles hlisted hp (htext p hp)).2

/-- A run that ends well brings the tree to rest. -/
theorem exists_atRest {budget : Nat} {a : σ} {summary : Summary}
    (hsettles : (Rule.ofSettings s).Settles) (hdry : s.dryRun = false) (hpassive : l.Passive)
    (hfirst : (heard budget l a s t).result? = some (.ok summary)) :
    let t' := (heard budget l a s t).state.tree
    ∃ paths, AtRest s t' paths ∧ t'.shape = t.shape ∧ summary = tally s t paths := by
  obtain ⟨paths, last, hfiles, htext, hledger, hpending, hlast, hsummary, -⟩ :=
    exists_of_heard_ok hpassive hfirst
  obtain ⟨htree, -⟩ := hledger.step_finish hpassive hpending
  obtain ⟨hrest, hshape⟩ := atRest_treeAfter hsettles hdry hfiles htext
  rw [← htree, ← hlast] at hrest hshape
  exact ⟨paths, hrest, hshape, hsummary⟩

theorem AtRest.quiet_heard {τ : Type} {l' : Listener τ} (h : AtRest s t paths)
    (hpassive : l'.Passive) (htakes : ∀ a e t, (l'.hear a e t).2.failure? = none) {budget : Nat}
    (hbudget : Walk.budget t ≤ budget) (a : τ) :
    Quiet s t paths.length (heard budget l' a s t) := by
  obtain ⟨last, hledger, hpending, hlast⟩ :=
    exists_of_texts hpassive h.files h.text (fun a e t _ => htakes a e t) hbudget a
  rw [hlast]
  exact h.quiet hpassive hledger hpending (htakes _ _ _)

end Runs

section Reporters
variable {s : Settings} {t : Tree} {r : Reporter} {cwd : Path}

theorem listener_eq_json_iff {budget : Nat} {last : State Reporter} (hpending : last.pending = [])
    (hlast : heard budget (reporting cwd) r s t = step (reporting cwd) s last) :
    last.world.listener = .json ↔ r = .json := by
  have hkept := listener_heard (l := reporting cwd) (s := s) (Q := fun r' => r' = .json ↔ r = .json)
    (fun _ _ _ h => hear_eq_json_iff.trans h) Iff.rfl t budget
  obtain ⟨hworld, -⟩ := step_finish (l := reporting cwd) (s := s) hpending
  rw [hlast, hworld] at hkept
  exact hear_eq_json_iff.symm.trans hkept

theorem exists_toJson? {first next : Summary} {json : Json} (h : first.toJson? = some json)
    (hroot : next.root = first.root) (hchanges : next.changes = []) :
    ∃ json, next.toJson? = some json := by
  obtain ⟨root, hdecode, -⟩ := Option.bind_eq_some_iff.1 h
  rw [Summary.toJson?, hroot, hdecode, hchanges]
  exact ⟨_, rfl⟩

/-- If a run that is reported as JSON ends well, its summary can be written. -/
theorem exists_toJson?_of_reported {summary : Summary}
    (h : (reported .json s t).result? = some (.ok summary)) :
    ∃ json, summary.toJson? = some json := by
  obtain ⟨paths, last, -, -, -, hpending, hlast, -, hanswer⟩ :=
    exists_of_heard_ok (passive_reporting _) h
  have hlistener : last.world.listener = .json := (listener_eq_json_iff hpending hlast).2 rfl
  exact failure?_reporting.1 hanswer hlistener summary rfl

theorem AtRest.quiet_reported {paths : List Path} (h : AtRest s t paths)
    (hjson : r = .json → ∃ json, (tally s t paths).toJson? = some json) :
    Quiet s t paths.length (reported r s t) := by
  have htakes : ∀ (r : Reporter) (e : Event) (now : Tree), (∀ summary, e ≠ .finish summary) →
      ((reporting t.cwdPath).hear r e now).2.failure? = none := by
    intro r e now hearly
    exact failure?_reporting.2 fun _ summary heq => absurd heq (hearly summary)
  obtain ⟨last, hledger, hpending, hlast⟩ :=
    exists_of_texts (passive_reporting _) h.files h.text htakes (Nat.le_refl _) r
  rw [reported, hlast]
  refine h.quiet (passive_reporting _) hledger hpending (failure?_reporting.2 ?_)
  rintro hlistener _ ⟨⟩
  exact hjson ((listener_eq_json_iff hpending hlast).1 hlistener)

/-- A reported run after another finds nothing to do. It may report as JSON if the first one did. -/
theorem quiet_reported {r' : Reporter} {summary : Summary}
    (hsettles : (Rule.ofSettings s).Settles) (hdry : s.dryRun = false)
    (hjson : r' = .json → r = .json) (hfirst : (reported r s t).result? = some (.ok summary)) :
    let t' := (reported r s t).state.tree
    Quiet s t' summary.filesScanned (reported r' s t') := by
  obtain ⟨paths, hrest, -, rfl⟩ := exists_atRest hsettles hdry (passive_reporting _) hfirst
  refine hrest.quiet_reported ?_
  intro hr'
  obtain rfl := hjson hr'
  obtain ⟨json, hfirst⟩ := exists_toJson?_of_reported hfirst
  refine exists_toJson? hfirst rfl ?_
  rw [tally, hrest.dues_eq_nil]
  rfl

end Reporters

/-- Consolidating comes to its end at once, in a text and in a whole tree: a second run ends well and
finds nothing to do. That holds of runs that are reported, as JSON only if the first one was, and
where the second run has any listener that leaves the tree alone and does not fail. -/
theorem quiet_consolidate {s : Settings} (hmode : s.mode = .consolidate) (hdry : s.dryRun = false)
    (hquote : ∀ q : Quote, q.char ∉ s.sharedTarget)
    (hfrom : ¬ ['f', 'r', 'o', 'm'] <:+: s.sharedTarget) :
    (∀ relative given, (Rule.ofSettings s).output relative
      ((Rule.ofSettings s).output relative given) = (Rule.ofSettings s).output relative given) ∧
    (∀ (r r' : Reporter) (t : Tree) (summary : Summary), (r' = .json → r = .json) →
      (reported r s t).result? = some (.ok summary) →
      let t' := (reported r s t).state.tree
      Quiet s t' summary.filesScanned (reported r' s t')) ∧
    ∀ (σ τ : Type) (l : Listener σ) (l' : Listener τ) (a : σ) (a' : τ) (t : Tree)
      (budget budget' : Nat) (summary : Summary), l.Passive → l'.Passive →
      (∀ a e t, (l'.hear a e t).2.failure? = none) → Walk.budget t ≤ budget' →
      (heard budget l a s t).result? = some (.ok summary) →
      let t' := (heard budget l a s t).state.tree
      Quiet s t' summary.filesScanned (heard budget' l' a' s t') := by
  have hsettles : (Rule.ofSettings s).Settles := by
    rw [Rule.ofSettings, hmode]
    exact Rule.settles_consolidate ⟨hquote, hfrom⟩
  refine ⟨hsettles, ?_, ?_⟩
  · intro r r' t summary hjson hfirst
    exact quiet_reported hsettles hdry hjson hfirst
  · intro σ τ l l' a a' t budget budget' summary hpassive hpassive' htakes hbudget hfirst
    obtain ⟨paths, hrest, hshape, rfl⟩ := exists_atRest hsettles hdry hpassive hfirst
    rw [← Walk.budget_eq_of_shape_eq hshape] at hbudget
    exact hrest.quiet_heard hpassive' htakes hbudget a'

section Sample

/-- A shared target that is a legacy one itself. -/
def legacySettings : Settings :=
  { root := Path.ofText ".".toList, mode := .consolidate, sharedTarget := "./types".toList }

/-- A clause to be redirected, and one that leads to the shared target already. -/
def legacyTree : Tree :=
  (Tree.empty {} []).put [.ofText "d.ts".toList]
    (.file (Utf8.encode "from '@/types' from './types'".toList))

def legacySummary : Summary :=
  { Summary.start legacySettings with
    filesScanned := 1
    filesChanged := 1
    importsChanged := 2
    changes := [{ path := Path.ofText "./d.ts".toList, relative := "d.ts".toList, count := 2 }] }

/-- The second run still finds two clauses, and puts in their place what they are. -/
theorem quiet_consolidate_legacyTree :
    let first := reported .silent legacySettings legacyTree
    first.result? = some (.ok legacySummary) ∧
      Quiet legacySettings first.state.tree 1
        (reported .silent legacySettings first.state.tree) := by
  have hquote : ∀ q : Quote, q.char ∉ legacySettings.sharedTarget := by
    intro q
    cases q <;> decide
  have hfrom : ¬ ['f', 'r', 'o', 'm'] <:+: legacySettings.sharedTarget := by decide
  have hfirst :
      (reported .silent legacySettings legacyTree).result? = some (.ok legacySummary) := by
    decide +kernel
  have hagain := (quiet_consolidate rfl rfl hquote hfrom).2.1 .silent .silent legacyTree
  exact ⟨hfirst, hagain _ id hfirst⟩

end Sample

end Run

end ImportAlias
