import ImportAlias.Proofs.Rule.Idempotence
import ImportAlias.Proofs.Run.Visits

/-!
# Comparing texts finds every replacement

A run takes a file for changed if the text that the rule makes differs from the text of the file,
and asks neither whether something was replaced nor how often. Clauses can grow and shrink, so that
the new text may well be as long as the old one. The two texts still differ at the first clause that
was replaced: there they have the same quote, and no target holds it, so that the old and the new
target would end at the same place.
-/
namespace ImportAlias

namespace Clause

/-- What makes a clause readable up to its closing quote, whatever else its target holds. -/
structure Delimited (c : Clause) : Prop where
  blanks : ∀ b ∈ c.blanks, isBlank b = true
  no_quote : c.literal.quote.char ∉ c.literal.target

theorem Valid.delimited {c : Clause} (hc : c.Valid) : c.Delimited :=
  ⟨hc.blanks, (forall_inTarget_iff.1 hc.target).1⟩

/-- A text starts with at most one delimited clause. -/
theorem Delimited.eq_of_text_append {c d : Clause} {u v : Text} (hc : c.Delimited)
    (hd : d.Delimited) (h : c.text ++ u = d.text ++ v) : c = d ∧ u = v := by
  obtain ⟨blanks, ⟨quote, target⟩⟩ := c
  obtain ⟨blanks', ⟨quote', target'⟩⟩ := d
  have hwhole : blanks ++ quote.char :: (target ++ quote.char :: u) =
      blanks' ++ quote'.char :: (target' ++ quote'.char :: v) := by
    simpa [text, Literal.text] using h
  obtain ⟨rfl, hquote, htail⟩ := append_stop_inj hc.blanks (Quote.not_isBlank_char _) hd.blanks
    (Quote.not_isBlank_char _) hwhole
  obtain rfl := Quote.char_injective hquote
  have hinside : ∀ t : Text, quote.char ∉ t → ∀ x ∈ t, decide (x ≠ quote.char) = true := by
    intro t ht x hx
    have hne : x ≠ quote.char := fun heq => ht (heq ▸ hx)
    simpa using hne
  obtain ⟨rfl, -, rfl⟩ := append_stop_inj (hinside _ hc.no_quote) (by simp)
    (hinside _ hd.no_quote) (by simp) htail
  exact ⟨rfl, rfl⟩

end Clause

namespace Judged
open Clause

/-- A verdict that can be told from the text: a new target is another one, and does not hold the
quote around it. -/
def Telling (j : Judged) : Prop :=
  ∀ new, j.verdict = .replace new →
    new ≠ j.clause.literal.target ∧ j.clause.literal.quote.char ∉ new

theorem delimited_outcome {j : Judged} (hc : j.clause.Valid) (hj : j.Telling) :
    j.outcome.Delimited := by
  obtain ⟨c, verdict⟩ := j
  cases verdict with
  | keep => exact hc.delimited
  | skip => exact hc.delimited
  | replace new =>
    refine ⟨?_, (hj new rfl).2⟩
    intro b hb
    rw [List.mem_singleton.1 hb]
    exact isBlank_space

theorem isReplaced_eq_false_of_outcome {j : Judged} (hj : j.Telling)
    (h : j.outcome = j.clause) : j.isReplaced = false := by
  obtain ⟨c, verdict⟩ := j
  cases verdict with
  | keep => rfl
  | skip => rfl
  | replace new =>
    have htarget : new = c.literal.target := congrArg (fun c => c.literal.target) h
    exact absurd htarget (hj new rfl).1

/-- If the old text comes out, no clause was replaced. The induction goes to the first clause at
which the texts could differ; behind a clause that was kept, what is left comes out again. -/
theorem not_isReplaced_of_joined_eq {pieces : List (Piece Judged)}
    (hvalid : ∀ j ∈ pieces.filterMap Piece.found?, j.clause.Valid)
    (htelling : ∀ j ∈ pieces.filterMap Piece.found?, j.Telling)
    (h : joined pieces = (pieces.map (Piece.map clause)).flatMap (Piece.text Clause.text)) :
    ∀ j ∈ pieces.filterMap Piece.found?, j.isReplaced = false := by
  induction pieces with
  | nil =>
    intro j hj
    cases hj
  | cons piece more ih =>
    cases piece with
    | plain c => exact ih hvalid htelling (List.cons.inj h).2
    | found j =>
      obtain ⟨hj, hmore⟩ := List.forall_mem_cons.1 hvalid
      obtain ⟨hjtelling, hmoretelling⟩ := List.forall_mem_cons.1 htelling
      have htext : j.outcome.text ++ joined more = j.clause.text ++
          (more.map (Piece.map clause)).flatMap (Piece.text Clause.text) := by
        rw [← text_eq_outcome_text]
        exact h
      obtain ⟨houtcome, hrest⟩ :=
        (delimited_outcome hj hjtelling).eq_of_text_append hj.delimited htext
      exact List.forall_mem_cons.2 ⟨isReplaced_eq_false_of_outcome hjtelling houtcome,
        ih hmore hmoretelling hrest⟩

end Judged

section Pass
variable {σ : Type} {answer : σ → Literal → Option Text × σ}

theorem hasReplacement_iff_count_pos (s : σ) (given : Text) :
    (substitute answer s given).1.hasReplacement = true ↔
      0 < (substitute answer s given).1.count := by
  simp only [substitute, assemble, Substitution.hasReplacement]
  split
  · rename_i hzero
    simp [hzero]
  · rename_i hcount
    simpa using Nat.pos_of_ne_zero hcount

/-- A pass whose new targets never hold the quote around them replaces something exactly if it makes
another text. -/
theorem count_pos_iff_result_ne {s : σ} {given : Text}
    (hquote : ∀ s l new, (answer s l).1 = some new → l.quote.char ∉ l.target →
      l.quote.char ∉ new) :
    0 < (substitute answer s given).1.count ↔
      (substitute answer s given).1.result given ≠ given := by
  constructor
  · intro hcount hsame
    have hvalid : ∀ j ∈ judgedClauses answer s given, j.clause.Valid := by
      intro j hj
      apply valid_of_mem_clauses (s := given)
      rw [← map_clause_judgedClauses answer s given]
      exact List.mem_map_of_mem hj
    have htelling : ∀ j ∈ judgedClauses answer s given, j.Telling := by
      intro j hj new hnew
      obtain ⟨s', hs'⟩ := exists_judge_of_mem_judgeAll hj
      rw [hs', verdict_judge_eq_replace_iff] at hnew
      have hold := (hvalid j hj).delimited.no_quote
      exact ⟨hnew.2.2, hquote s' _ new hnew.2.1 hold⟩
    have hjoined : Judged.joined (judgeAll answer s (scan Clause.recognise given)).1 =
        ((judgeAll answer s (scan Clause.recognise given)).1.map
          (Piece.map Judged.clause)).flatMap (Piece.text Clause.text) := by
      rw [map_clause_judgeAll, Clause.flatMap_text_scan_recognise, ← result_substitute]
      exact hsame
    have hnone := Judged.not_isReplaced_of_joined_eq hvalid htelling hjoined
    have hzero : (substitute answer s given).1.count = 0 := by
      apply List.countP_eq_zero.2
      intro j hj
      simp [hnone j hj]
    omega
  · intro hother
    by_contra hcount
    exact hother (result_of_count_eq_zero (by omega))

end Pass

namespace Rule
variable {rule : Rule} {importAlias : Text} {folders : List Text} {relative : Path}

/-- A quote in a new target comes from the alias, the directory or the old target. -/
theorem quote_not_mem_newTarget? {q : Quote} {target new : Text}
    (hrule : rule = .folder importAlias folders ∨ rule = .resolve importAlias)
    (halias : q.char ∉ importAlias) (hdir : q.char ∉ Target.directoryText relative)
    (hnew : rule.newTarget? relative target = some new) (htarget : q.char ∉ target) :
    q.char ∉ new := by
  have hdot : q.char ≠ '.' := by cases q <;> decide
  have hslash : q.char ≠ '/' := by cases q <;> decide
  intro hmem
  rcases hrule with rfl | rfl
  · rcases Target.mem_anchor? hnew hmem with hx | hx | hx
    · exact halias hx
    · exact hslash hx
    · exact htarget hx
  · obtain ⟨-, rfl⟩ := Target.exists_of_resolveWithAlias? hnew
    rcases List.mem_append.1 hmem with hx | hx
    · exact halias hx
    rcases Target.mem_resolve hx with hx | hx | hx | hx
    · exact hdot hx
    · exact hslash hx
    · exact hdir hx
    · exact htarget hx

theorem ofSettings_of_mode_ne {s : Settings} (h : s.mode ≠ .consolidate) :
    ofSettings s = .folder s.importAlias s.folders ∨ ofSettings s = .resolve s.importAlias := by
  cases hmode : s.mode with
  | folder =>
    left
    rw [ofSettings, hmode]
  | resolve =>
    right
    rw [ofSettings, hmode]
  | consolidate => exact absurd hmode h

end Rule

namespace Run
variable {σ : Type} {l : Listener σ} {s : Settings} {d : Document}

/-- What was told and written when a change has been told of. -/
theorem told_stored (l : Listener σ) (s : Settings) (w : World σ) (due : Due) :
    let after := (stored s w due).told l (.change due.change)
    after.events = w.events ++ [.change due.change] ∧
      (s.dryRun = false → after.writes = w.writes ++ [due.write]) := by
  intro after
  constructor
  · exact congrArg (· ++ [Event.change due.change]) (events_stored s w due)
  · intro hdry
    have hwrites : after.writes = (stored s w due).writes := rfl
    simp [hwrites, writes_stored, hdry]

/-- A visit to a text does what is due to it. -/
theorem Visit.world_eq {p : Path} {w w' : World σ} {f : Summary → Summary}
    {failure? : Option Error} (h : Visit l s p w w' f failure?)
    (hload : Document.load w.tree s.root p = .ok d) :
    w' = match due? s w.tree p with
      | none => w
      | some due => (stored s w due).told l (.change due.change) := by
  cases h with
  | unreadable hfails =>
    rw [hload] at hfails
    cases hfails
  | kept _ hdue => rw [hdue]
  | refused hdue _ => rw [hdue]
  | changed hdue _ => rw [hdue]

/-- A text is left alone if the rule gives it back, and changed if not. -/
theorem visit_of_load (l : Listener σ) {st : State σ}
    (hload : Document.load st.tree s.root d.path = .ok d) :
    let sub := ((Rule.ofSettings s).apply d.relative d.text).1
    let after := (visit l s st d.path).1
    (sub.result d.text = d.text → after.world = st.world) ∧
      (sub.result d.text ≠ d.text →
        after.events = st.events ++ [.change ⟨d.path, d.relative.display, sub.count⟩] ∧
          (s.dryRun = false → ∃ place,
            after.writes = st.writes ++ [⟨d.path, place, sub.result d.text⟩])) := by
  intro sub after
  obtain ⟨place, bytes, hlocate, hdecode, -, hrelative⟩ := Document.exists_locate_of_load hload
  have hdue : due? s st.tree d.path = if sub.result d.text = d.text then none
      else some ⟨⟨d.path, place, sub.result d.text⟩,
        ⟨d.path, d.relative.display, sub.count⟩⟩ := by
    simpa [← hrelative] using due?_of_locate (s := s) hlocate hdecode
  obtain ⟨-, -, f, hvisit, -⟩ := visit_visits l s st d.path
  have hworld := hvisit.world_eq hload
  have htree : st.world.tree = st.tree := rfl
  rw [htree, hdue] at hworld
  constructor
  · intro hsame
    rw [if_pos hsame] at hworld
    exact hworld
  · intro hother
    rw [if_neg hother] at hworld
    obtain ⟨hevents, hwrites⟩ := told_stored l s st.world
      ⟨⟨d.path, place, sub.result d.text⟩, ⟨d.path, d.relative.display, sub.count⟩⟩
    constructor
    · exact (congrArg World.events hworld).trans hevents
    · intro hdry
      exact ⟨place, (congrArg World.writes hworld).trans (hwrites hdry)⟩

/-- Where neither the alias nor the directory of a file holds a quote, a pass over its text says
that it has replaced something, counts a replacement and makes another text, or does none of the
three. So a run that comes to the file changes it exactly if a target was replaced in it: if none
was, nothing is written or told, and if one was, the change is told of, and is written unless the run
is dry. -/
theorem changes_agree (l : Listener σ) (s : Settings) (d : Document) (hmode : s.mode ≠ .consolidate)
    (halias : ∀ q : Quote, q.char ∉ s.importAlias)
    (hdir : ∀ q : Quote, q.char ∉ Target.directoryText d.relative) :
    let sub := ((Rule.ofSettings s).apply d.relative d.text).1
    (sub.hasReplacement = true ↔ 0 < sub.count) ∧
      (0 < sub.count ↔ sub.result d.text ≠ d.text) ∧
      ∀ st : State σ, Document.load st.tree s.root d.path = .ok d →
        let after := (visit l s st d.path).1
        (sub.count = 0 → after.world = st.world) ∧
          (0 < sub.count →
            after.events = st.events ++ [.change ⟨d.path, d.relative.display, sub.count⟩] ∧
              (s.dryRun = false → ∃ place,
                after.writes = st.writes ++ [⟨d.path, place, sub.result d.text⟩])) := by
  intro sub
  have hrule := Rule.ofSettings_of_mode_ne hmode
  obtain ⟨answer, hpure, happly⟩ := Rule.exists_substitute d.relative hrule
  have hsub : sub = (substitute answer [] d.text).1 := happly d.text
  have hquote : ∀ log l new, (answer log l).1 = some new → l.quote.char ∉ l.target →
      l.quote.char ∉ new := by
    intro log l new hnew htarget
    rw [hpure] at hnew
    exact Rule.quote_not_mem_newTarget? hrule (halias l.quote) (hdir l.quote) hnew htarget
  have hcount : 0 < sub.count ↔ sub.result d.text ≠ d.text := by
    rw [hsub]
    exact count_pos_iff_result_ne hquote
  refine ⟨?_, hcount, ?_⟩
  · rw [hsub]
    exact hasReplacement_iff_count_pos [] d.text
  · intro st hload after
    obtain ⟨hkept, hchanged⟩ := visit_of_load l hload
    constructor
    · intro hzero
      apply hkept
      by_contra hother
      have hpos := hcount.2 hother
      omega
    · intro hpos
      exact hchanged (hcount.1 hpos)

section Sample

def evenSettings : Settings := { root := Path.ofText ".".toList, mode := .resolve }

/-- The first clause grows by two characters, and the second one shrinks by two. -/
def evenDocument : Document where
  path := Path.ofText "./k.ts".toList
  relative := Path.ofText "k.ts".toList
  text := "from '../y'; from   './z'".toList

def evenTree : Tree :=
  (Tree.empty {} []).put [.ofText "k.ts".toList] (.file (Utf8.encode evenDocument.text))

/-- Two clauses are replaced in a text that keeps its length, and the run tells of both. -/
theorem changes_agree_even :
    let sub := ((Rule.ofSettings evenSettings).apply evenDocument.relative evenDocument.text).1
    let st := initial evenSettings Reporter.silent evenTree
    let after := (visit (reporting evenTree.cwdPath) evenSettings st evenDocument.path).1
    (sub.result evenDocument.text).length = evenDocument.text.length ∧
      sub.hasReplacement = true ∧ sub.result evenDocument.text ≠ evenDocument.text ∧
      after.events = [.change ⟨evenDocument.path, "k.ts".toList, 2⟩] := by
  have hload : Document.load evenTree evenSettings.root evenDocument.path = .ok evenDocument := by
    decide +kernel
  intro sub st after
  have hcount : sub.count = 2 := by decide +kernel
  obtain ⟨hflag, htext, hvisit⟩ := changes_agree (reporting evenTree.cwdPath) evenSettings
    evenDocument (by decide) (fun q => by cases q <;> decide)
    (fun q => by cases q <;> decide +kernel)
  have hpos : 0 < sub.count := by
    rw [hcount]
    decide
  refine ⟨by decide +kernel, hflag.2 hpos, htext.1 hpos, ?_⟩
  have hevents := ((hvisit st hload).2 hpos).1
  rw [hcount] at hevents
  exact hevents

end Sample

end Run

end ImportAlias
