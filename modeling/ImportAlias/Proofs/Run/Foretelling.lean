import ImportAlias.Proofs.Run.Parallel
import ImportAlias.Proofs.Run.Repetition

/-!
# What a dry run foretells

A dry run tells of the changes that a real run from the same tree makes, comes to the same end, and
writes nothing. In the real run each file is found and read after the files before it have been
written; that no write has a say in what comes later is what `Run.Ledger` says.
-/
namespace ImportAlias

/-- The same settings for a dry run, or for a real one. -/
def Settings.withDryRun (s : Settings) (dryRun : Bool) : Settings := { s with dryRun }

namespace Run

/-- A dry run and a real one from the same tree fail with the same error, or end well with summaries
that differ in nothing but what they say about being dry. Either way they tell of the same changes,
and the dry run leaves the tree as it is. The listeners may be different ones; they leave the tree
alone and do not stop the runs, as one that never fails does not (`result?_heard_ne_output`). -/
theorem dryRun_foretells {σ τ : Type} (l : Listener σ) (l' : Listener τ) (a : σ) (a' : τ)
    (s : Settings) (t : Tree) (budget budget' : Nat) (hpassive : l.Passive)
    (hpassive' : l'.Passive) (hbudget : Walk.budget t ≤ budget)
    (hbudget' : Walk.budget t ≤ budget')
    (htakes : ∀ reason, (heard budget l a (s.withDryRun true) t).result? ≠
      some (.error (.output reason)))
    (htakes' : ∀ reason, (heard budget' l' a' (s.withDryRun false) t).result? ≠
      some (.error (.output reason))) :
    let dry := heard budget l a (s.withDryRun true) t
    let real := heard budget' l' a' (s.withDryRun false) t
    ((∃ e, dry.result? = some (.error e) ∧ real.result? = some (.error e)) ∨
      ∃ summary : Summary, dry.result? = some (.ok { summary with dryRun := true }) ∧
        real.result? = some (.ok { summary with dryRun := false })) ∧
      dry.state.events.filterMap Event.change? = real.state.events.filterMap Event.change? ∧
      dry.state.tree = t ∧ dry.state.writes = [] := by
  intro dry real
  by_cases hdir : t.isDir s.root = true
  · have hfiles := Walk.files_eq (s := s.selection) hdir
    have halike : ∀ found, List.Forall₂
        (Alike Eq id (s.withDryRun true) (s.withDryRun false) t) found found :=
      alike_of_rule_eq (by rfl) (by rfl) t
    obtain ⟨done, done', hcame, hcame', hstep, hend⟩ := exists_inStep (halike _) hfiles hfiles
      hpassive hpassive' hbudget hbudget' htakes htakes'
    have hdues : dues (s.withDryRun true) t done = dues (s.withDryRun false) t done' := by
      simpa using hstep.dues
    refine ⟨?_, ?_, hcame.tree, hcame.writes⟩
    · rcases hend with ⟨e, _, rfl, herror, herror'⟩ | ⟨hok, hok'⟩
      · exact Or.inl ⟨e, herror, herror'⟩
      · have htally : tally (s.withDryRun true) t done =
            { tally (s.withDryRun false) t done' with dryRun := true } := by
          rw [tally, tally, hdues, hstep.length]
          rfl
        rw [htally] at hok
        exact Or.inr ⟨_, hok, hok'⟩
    · rw [hcame.changes, hcame'.changes, hdues]
  · have hdry : dry = _ := heard_of_not_isDir (s := s.withDryRun true) hdir l a budget
    have hreal : real = _ := heard_of_not_isDir (s := s.withDryRun false) hdir l' a' budget'
    rw [hdry, hreal]
    exact ⟨Or.inl ⟨_, rfl, rfl⟩, rfl, rfl, rfl⟩

section Sample

/-- A text to be rewritten, and a file that is no text. -/
def doomedTree : Tree :=
  ((Tree.empty {} []).put [.ofText "i.ts".toList] (.file [255])).put
    [.ofText "h.ts".toList] (.file (Utf8.encode "from './lib/h'".toList))

def doomedSettings (ignored : List Text) : Settings := { root := Path.ofText ".".toList, ignored }

def doomedChange : Change :=
  { path := Path.ofText "./h.ts".toList, relative := "h.ts".toList, count := 1 }

def doomedSummary : Summary :=
  { Summary.start (doomedSettings ["i.ts".toList]) with
    filesScanned := 1
    filesChanged := 1
    importsChanged := 1
    changes := [doomedChange] }

/-- Both runs tell of the change to the text. They fail at the file that is none, and end well if it
is ignored. -/
theorem dryRun_foretells_doomed :
    let dry (ignored : List Text) := heard 10 (reporting (Path.ofText "/".toList)) .silent
      ((doomedSettings ignored).withDryRun true) doomedTree
    let real (ignored : List Text) := heard 10 (reporting (Path.ofText "/".toList)) .json
      ((doomedSettings ignored).withDryRun false) doomedTree
    (dry []).result? = some (.error (.notText (Path.ofText "./i.ts".toList))) ∧
      (real []).result? = some (.error (.notText (Path.ofText "./i.ts".toList))) ∧
      (dry ["i.ts".toList]).result? = some (.ok { doomedSummary with dryRun := true }) ∧
      (real ["i.ts".toList]).result? = some (.ok { doomedSummary with dryRun := false }) ∧
      ∀ ignored ∈ [[], ["i.ts".toList]],
        (dry ignored).state.events.filterMap Event.change? = [doomedChange] ∧
          (real ignored).state.events.filterMap Event.change? = [doomedChange] ∧
          (dry ignored).state.tree = doomedTree ∧ (dry ignored).state.writes = [] := by
  intro dry real
  have hfails : (dry []).result? = some (.error (.notText (Path.ofText "./i.ts".toList))) ∧
      (real []).result? = some (.error (.notText (Path.ofText "./i.ts".toList))) := by
    decide +kernel
  have hends : (dry ["i.ts".toList]).result? = some (.ok { doomedSummary with dryRun := true }) ∧
      (real ["i.ts".toList]).result? = some (.ok { doomedSummary with dryRun := false }) := by
    decide +kernel
  have htold : ∀ ignored ∈ [[], ["i.ts".toList]],
      (dry ignored).state.events.filterMap Event.change? = [doomedChange] := by
    decide +kernel
  refine ⟨hfails.1, hfails.2, hends.1, hends.2, ?_⟩
  intro ignored hignored
  have htakes : ∀ reason, (real ignored).result? ≠ some (.error (.output reason)) := by
    intro reason houtput
    rcases List.mem_pair.1 hignored with rfl | rfl
    · cases hfails.2.symm.trans houtput
    · cases hends.2.symm.trans houtput
  have hpassive := passive_reporting (Path.ofText "/".toList)
  obtain ⟨-, hchanges, htree, hwrites⟩ := dryRun_foretells _ _ _ _ (doomedSettings ignored) doomedTree
    10 10 hpassive hpassive (by decide) (by decide)
    (result?_reporting_ne_output (r := .silent) (by simp) _ _ _) htakes
  exact ⟨htold ignored hignored, hchanges.symm.trans (htold ignored hignored), htree, hwrites⟩

end Sample

end Run

end ImportAlias
