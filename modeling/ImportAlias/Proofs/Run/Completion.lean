import ImportAlias.Proofs.Run.Course

/-!
# What a run has done when it ends

A run ends when nothing is left to visit, at a file that is no text, or when its listener fails. In
each case exactly the files before that point have been treated, and nothing else has changed.
-/
namespace ImportAlias

namespace Run

section Runs
variable {σ : Type} {l : Listener σ} {a : σ} {s : Settings} {t : Tree} {st : State σ} {p : Path}

/-- What has become of the tree when what is due to some files has been done, and nothing else:
each write is at a place of its own, it has put other bytes there, and every other place is as it
was. -/
structure Done (s : Settings) (t : Tree) (paths : List Path) (st : State σ) : Prop where
  writes : st.writes = (dues s t paths).map Due.write
  nodup : (st.writes.map Write.place).Nodup
  written : ∀ w ∈ st.writes, st.tree.entryAt w.place = some (.file (Utf8.encode w.text)) ∧
    t.entryAt w.place ≠ some (.file (Utf8.encode w.text))
  kept : ∀ place, (∀ w ∈ st.writes, w.place ≠ place) → st.tree.entryAt place = t.entryAt place
  cwd : st.tree.cwd = t.cwd
  limits : st.tree.limits = t.limits

theorem done_of_treeAfter {paths : List Path} (hdry : s.dryRun = false) (hlisted : t.Listed paths)
    (hafter : st.tree = treeAfter s t paths)
    (hwritten : st.writes = if s.dryRun then [] else (dues s t paths).map Due.write) :
    Done s t paths st := by
  have htree : st.tree = applyAll t (dues s t paths) := by simpa [treeAfter, hdry] using hafter
  have hwrites : st.writes = (dues s t paths).map Due.write := by simpa [hdry] using hwritten
  have hplaced := placed_dues (s := s) hlisted
  obtain ⟨hcwd, hlimits⟩ := cwd_limits_applyAll t (dues s t paths)
  refine ⟨hwrites, ?_, ?_, ?_, htree ▸ hcwd, htree ▸ hlimits⟩
  · rw [hwrites, List.map_map]
    exact hplaced.nodup
  · intro w hw
    rw [hwrites] at hw
    obtain ⟨d, hd, rfl⟩ := List.mem_map.1 hw
    rw [htree]
    exact ⟨entryAt_applyAll_of_mem hplaced hd, entryAt_ne_of_mem_dues hd⟩
  · intro place hne
    rw [htree]
    refine entryAt_applyAll_of_ne hplaced ?_
    intro d hd
    exact hne d.write (hwrites ▸ List.mem_map_of_mem hd)

theorem exists_of_map_ok_eq {paths before : List Path} {rest : List (Except Error Path)}
    (h : paths.map .ok = before.map .ok ++ .ok p :: rest) : ∃ more, paths = before ++ p :: more := by
  obtain ⟨first, last, rfl, hfirst, hlast⟩ := List.map_eq_append_iff.1 h
  obtain ⟨q, more, rfl, hq, -⟩ := List.map_eq_cons_iff.1 hlast
  obtain rfl := (List.map_inj_right fun _ _ => Except.ok.inj).1 hfirst
  cases hq
  exact ⟨more, rfl⟩

/-- A listener that has taken the calls for some files has failed at none of them. -/
theorem eq_of_taken {before before' : List Path} {p' : Path}
    {gap rest rest' : List (Except Error Path)} {reason : Text}
    (hbefore : before'.map .ok = before.map .ok ++ gap)
    (hrest : .ok p :: rest = gap ++ .ok p' :: rest') (htaken : Taken l a s t before')
    (hanswer : answer? l a s t before p = some reason) : before = before' ∧ p = p' := by
  cases gap with
  | nil =>
    rw [List.append_nil] at hbefore
    exact ⟨((List.map_inj_right fun _ _ => Except.ok.inj).1 hbefore).symm,
      Except.ok.inj (List.cons.inj hrest).1⟩
  | cons first gap =>
    obtain ⟨rfl, -⟩ := List.cons.inj hrest
    obtain ⟨more, rfl⟩ := exists_of_map_ok_eq hbefore
    rw [htaken.answer?_eq_none] at hanswer
    cases hanswer

/-- There is one point only where a listener fails for the first time. -/
theorem eq_of_answer?_eq_some {before before' : List Path} {p' : Path}
    {rest rest' : List (Except Error Path)} {reason reason' : Text}
    (h : before.map .ok ++ .ok p :: rest = before'.map .ok ++ .ok p' :: rest')
    (htaken : Taken l a s t before) (hanswer : answer? l a s t before p = some reason)
    (htaken' : Taken l a s t before') (hanswer' : answer? l a s t before' p' = some reason') :
    before = before' ∧ p = p' := by
  rcases List.append_eq_append_iff.1 h with ⟨gap, hbefore, hrest⟩ | ⟨gap, hbefore, hrest⟩
  · exact eq_of_taken hbefore hrest htaken' hanswer
  · obtain ⟨hsame, hpath⟩ := eq_of_taken hbefore hrest htaken hanswer'
    exact ⟨hsame.symm, hpath.symm⟩

section Ends
variable {budget : Nat} (hdry : s.dryRun = false) (hbudget : Walk.budget t ≤ budget)
  (hpassive : l.Passive)
include hdry hbudget hpassive

/-- All files are texts, and the listener never fails. -/
theorem heard_of_texts {paths : List Path}
    (hfiles : Walk.files s.selection t s.root = .ok (paths.map .ok))
    (htakes : ∀ a e t, (l.hear a e t).2.failure? = none) (htext : ∀ p ∈ paths, IsText t p) :
    Done s t paths (heard budget l a s t).state ∧
      ∃ summary, (heard budget l a s t).result? = some (.ok summary) := by
  have hlisted : t.Listed paths :=
    Walk.listed_of_files (hfiles.trans (by rw [List.append_nil]))
  obtain ⟨last, hledger, hpending, hlast⟩ :=
    exists_of_texts hpassive hfiles htext (fun a e t _ => htakes a e t) hbudget a
  obtain ⟨htree, hwrites, -, hresult⟩ := hledger.step_finish hpassive hpending
  rw [World.answer?, htakes] at hresult
  rw [hlast]
  exact ⟨done_of_treeAfter hdry hlisted htree (hwrites.trans hledger.writes), _, hresult⟩

/-- A file is no text, and the listener never fails. -/
theorem heard_of_notText {before : List Path} {rest : List (Except Error Path)}
    (hfiles : Walk.files s.selection t s.root = .ok (before.map .ok ++ .ok p :: rest))
    (htakes : ∀ a e t, (l.hear a e t).2.failure? = none) (htext : ∀ q ∈ before, IsText t q)
    (hnot : NotText t p) :
    Done s t before (heard budget l a s t).state ∧
      (heard budget l a s t).result? = some (.error (.notText p)) := by
  have hbreaks : Breaks s t (before.map .ok ++ .ok p :: rest) before (.notText p) :=
    ⟨.ok p, rest, rfl, htext, Or.inr ⟨p, rfl, load_of_notText hnot s.root⟩⟩
  obtain ⟨n, hn, hcourse⟩ := course_heard hpassive hfiles a budget
  cases hcourse with
  | unfinished hfuel _ => omega
  | unstarted hanswer _ =>
    rw [htakes] at hanswer
    cases hanswer
  | refused _ _ hanswer _ _ =>
    exact absurd hanswer (answer?_ne_some fun a e t _ => htakes a e t)
  | broken hbroken hledger hresult =>
    obtain ⟨rfl, rfl⟩ := hbroken.unique hbreaks
    exact ⟨done_of_treeAfter hdry (Walk.listed_of_files hfiles) hledger.tree hledger.writes,
      hresult⟩
  | complete hout hpaths _ _ _ =>
    rw [hout] at hbreaks
    exact absurd hbreaks (not_breaks hpaths _)

/-- The listener fails when it is told of a change, and has not failed before. -/
theorem heard_of_failure {before : List Path} {rest : List (Except Error Path)} {reason : Text}
    (hfiles : Walk.files s.selection t s.root = .ok (before.map .ok ++ .ok p :: rest))
    (htaken : Taken l a s t before) (htext : ∀ q ∈ before ++ [p], IsText t q)
    (hfails : answer? l a s t before p = some reason) :
    Done s t (before ++ [p]) (heard budget l a s t).state ∧
      (heard budget l a s t).result? = some (.error (.output reason)) := by
  have hsplit : before.map .ok ++ .ok p :: rest =
      (before ++ [p]).map (Except.ok (ε := Error)) ++ rest := by simp
  have hlisted : t.Listed (before ++ [p]) := by
    rw [hsplit] at hfiles
    exact Walk.listed_of_files hfiles
  obtain ⟨n, hn, hcourse⟩ := course_heard hpassive hfiles a budget
  cases hcourse with
  | unfinished hfuel _ => omega
  | unstarted hanswer _ =>
    rw [htaken _ List.mem_cons_self] at hanswer
    cases hanswer
  | refused hout htaken' hanswer htreated hresult =>
    obtain ⟨rfl, rfl⟩ := eq_of_answer?_eq_some hout htaken hfails htaken' hanswer
    rw [List.nil_append, hfails] at hanswer
    cases hanswer
    exact ⟨done_of_treeAfter hdry hlisted htreated.tree htreated.writes, hresult⟩
  -- In the other two cases the run has come through the file, and the listener has taken its change.
  | broken hbreaks hledger _ =>
    rw [hsplit] at hbreaks
    obtain ⟨more, rfl, -⟩ := hbreaks.exists_of_texts htext
    have htook := hledger.taken
    rw [List.nil_append, List.append_assoc] at htook
    rw [htook.answer?_eq_none] at hfails
    cases hfails
  | complete hout _ hledger _ _ =>
    obtain ⟨more, rfl⟩ := exists_of_map_ok_eq hout.symm
    rw [hledger.taken.answer?_eq_none] at hfails
    cases hfails

end Ends

end Runs

/-- A run that writes does exactly what is due to the files that its walk comes to, in their order:
to all of them if they are texts and the listener never fails, to those before the first file that
is no text, or to those up to the one whose change makes the listener fail. -/
theorem done_heard {σ : Type} (l : Listener σ) (a : σ) (s : Settings) (t : Tree) (budget : Nat)
    (found : List (Except Error Path)) (hdry : s.dryRun = false)
    (hbudget : Walk.budget t ≤ budget) (hpassive : l.Passive)
    (hfiles : Walk.files s.selection t s.root = .ok found) :
    let outcome := heard budget l a s t
    (t.limits = {} → ∃ paths : List Path, found = paths.map .ok ∧
      ∀ p ∈ paths, IsText t p ∨ NotText t p) ∧
    ((∀ a e t, (l.hear a e t).2.failure? = none) →
      (∀ paths : List Path, found = paths.map .ok → (∀ p ∈ paths, IsText t p) →
        Done s t paths outcome.state ∧ ∃ summary, outcome.result? = some (.ok summary)) ∧
      ∀ (before : List Path) p rest, found = before.map .ok ++ .ok p :: rest →
        (∀ q ∈ before, IsText t q) → NotText t p →
        Done s t before outcome.state ∧ outcome.result? = some (.error (.notText p))) ∧
    ∀ (before : List Path) p rest reason, found = before.map .ok ++ .ok p :: rest →
      (∀ q ∈ before ++ [p], IsText t q) → due? s t p ≠ none →
      l.failures a (calls s t (dues s t (before ++ [p]))) =
        List.replicate ((dues s t before).length + 1) none ++ [some reason] →
      Done s t (before ++ [p]) outcome.state ∧
        outcome.result? = some (.error (.output reason)) := by
  intro outcome
  refine ⟨?_, ?_, ?_⟩
  · intro hlimits
    rw [Walk.files_eq (Walk.isDir_of_files hfiles)] at hfiles
    obtain ⟨files, hroot⟩ := Walk.exists_files_of_unbounded (s := s.selection) hlimits
    refine ⟨files.map Prod.fst, ?_, ?_⟩
    · rw [← Except.ok.inj hfiles, hroot, List.map_map, List.map_map]
      rfl
    · intro p hp
      obtain ⟨file, hfile, rfl⟩ := List.mem_map.1 hp
      obtain ⟨content, hfound⟩ := Walk.found_of_mem_fromRoot (hroot ▸ List.mem_map_of_mem hfile)
      exact isText_or_notText (hfound.locate_of_unbounded hlimits .use)
  · intro htakes
    constructor
    · rintro paths rfl htext
      exact heard_of_texts hdry hbudget hpassive hfiles htakes htext
    · rintro before p rest rfl htext hnot
      exact heard_of_notText hdry hbudget hpassive hfiles htakes htext hnot
  · rintro before p rest reason rfl htext hdue hfailures
    obtain ⟨d, hd⟩ := Option.ne_none_iff_exists'.1 hdue
    rw [failures_concat, hd] at hfailures
    obtain ⟨hbefore, hlast⟩ := List.append_inj' hfailures rfl
    refine heard_of_failure hdry hbudget hpassive hfiles ?_ htext (List.singleton_inj.1 hlast)
    intro f hf
    rw [hbefore] at hf
    exact List.eq_of_mem_replicate hf

section Sample

/-- Two texts to be rewritten and a file that is no text, in the working directory. -/
def sampleTree : Tree :=
  let file (name : Name) (content : Bytes) (t : Tree) : Tree := t.put [name] (.file content)
  file (.ofText "a.ts".toList) (Utf8.encode "from './lib/a'".toList) <|
    file (.ofText "b.ts".toList) (Utf8.encode "from \"../hooks\"".toList) <|
      file (.ofText "c.ts".toList) [255] (Tree.empty {} [])

def samplePath (name : String) : Path := Path.ofText ("./".toList ++ name.toList)

def sampleSettings (ignored : List Text) : Settings := { root := Path.ofText ".".toList, ignored }

/-- Fails when it is told of a change, or never. -/
def sampleListener (failure? : Option Text) : Listener Unit where
  hear _ e _ :=
    match e with
    | .change _ => ((), { failure? })
    | _ => ((), {})

theorem isText_sample : ∀ p ∈ ["a.ts", "b.ts"].map samplePath, IsText sampleTree p := by
  simp only [List.map_cons, List.map_nil, List.forall_mem_cons]
  exact ⟨⟨_, _, rfl, rfl⟩, ⟨_, _, rfl, rfl⟩, by simp⟩

/-- The same folder without the file that is no text, with it, and with a listener that fails. -/
theorem done_heard_sample :
    let run (ignored : List Text) (failure? : Option Text) :=
      heard 10 (sampleListener failure?) () (sampleSettings ignored) sampleTree
    (Done (sampleSettings ["c.ts".toList]) sampleTree (["a.ts", "b.ts"].map samplePath)
        (run ["c.ts".toList] none).state ∧
      ∃ summary, (run ["c.ts".toList] none).result? = some (.ok summary)) ∧
    (Done (sampleSettings []) sampleTree (["a.ts", "b.ts"].map samplePath) (run [] none).state ∧
      (run [] none).result? = some (.error (.notText (samplePath "c.ts")))) ∧
    (Done (sampleSettings []) sampleTree [samplePath "a.ts"] (run [] (some ['x'])).state ∧
      (run [] (some ['x'])).result? = some (.error (.output ['x']))) := by
  have hpassive : ∀ failure?, (sampleListener failure?).Passive := by
    intro failure? _ e _
    cases e <;> rfl
  have htakes : ∀ a e t, ((sampleListener none).hear a e t).2.failure? = none := by
    intro _ e _
    cases e <;> rfl
  refine ⟨?_, ?_, ?_⟩
  · exact ((done_heard _ () _ _ 10 _ rfl (by decide) (hpassive none) rfl).2.1 htakes).1 _ rfl
      isText_sample
  · exact ((done_heard _ () _ _ 10 _ rfl (by decide) (hpassive none) rfl).2.1 htakes).2 _ _ [] rfl
      isText_sample ⟨_, rfl, rfl⟩
  · exact (done_heard _ () _ _ 10 _ rfl (by decide) (hpassive _) rfl).2.2 [] _ _ _ rfl
      (fun q hq => isText_sample q (List.mem_cons.2 (Or.inl (List.mem_singleton.1 hq))))
      (fun h => nomatch h) rfl

end Sample

end Run

end ImportAlias
