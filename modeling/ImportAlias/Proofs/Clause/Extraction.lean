import ImportAlias.Proofs.Clause.Swap

/-!
# Reading a text again after a pass

If every new target is fit for its clause, the new text is cut into the same pieces as the old one,
each clause with what became of it, unless a literal was left open before a line break that is lost
(`Judged.scan_joined`). So the literals of the new text are those of the old one with the answers
put in.
-/
namespace ImportAlias

namespace Judged
open Clause

/-- The induction is along the scan of the old text: whether a clause starts depends on all that
follows, and that is what the pieces behind carry. -/
theorem scan_joined {s : Text} {pieces : List (Piece Judged)}
    (hpieces : pieces.map (Piece.map clause) = scan recognise s)
    (hfits : ∀ j ∈ pieces.filterMap Piece.found?, j.Fitting) :
    scan recognise (joined pieces) = pieces.map (Piece.map outcome) ∨ OpensIn pieces := by
  induction s using Clause.scan_induction generalizing pieces with
  | nil =>
    rw [List.map_eq_nil_iff] at hpieces
    subst hpieces
    exact Or.inl rfl
  | plain c rest hnone ih =>
    rw [List.map_eq_cons_iff] at hpieces
    obtain ⟨piece, more, rfl, hpiece, hmore⟩ := hpieces
    cases piece with
    | found j => cases hpiece
    | plain d =>
      obtain rfl := Piece.plain.inj hpiece
      have hsource : source more = rest := by
        rw [source_eq, hmore, flatMap_text_scan_recognise]
      have hbehind : ∀ j ∈ more.filterMap Piece.found?, j.Fitting := hfits
      rcases ih hmore hbehind with hscan | hopens
      · rcases read?_joined_eq_none hbehind (hsource.symm ▸ hnone) with hstill | hopens
        · rw [joined_plain, scan_cons_of_none (recognise_eq_none_iff.2 hstill), hscan]
          exact Or.inl rfl
        · exact Or.inr hopens
      · exact Or.inr (hopens.cons _)
  | found c rest hc ih =>
    rw [List.map_eq_cons_iff] at hpieces
    obtain ⟨piece, more, rfl, hpiece, hmore⟩ := hpieces
    cases piece with
    | plain d => cases hpiece
    | found j =>
      obtain ⟨hj, hrest⟩ := List.forall_mem_cons.1 hfits
      rcases ih hmore hrest with hscan | hopens
      · rw [joined_found, text_eq_outcome_text, scan_text_append hj.outcome_valid, hscan]
        exact Or.inl rfl
      · exact Or.inr (hopens.cons _)

/-- Where nothing is replaced the old text comes out. -/
theorem joined_of_not_replaced {pieces : List (Piece Judged)}
    (h : ∀ j ∈ pieces.filterMap Piece.found?, j.isReplaced = false) :
    joined pieces = source pieces := by
  induction pieces with
  | nil => rfl
  | cons piece more ih =>
    cases piece with
    | plain c => rw [joined_plain, source_plain, ih h]
    | found j =>
      obtain ⟨hj, hmore⟩ := List.forall_mem_cons.1 h
      rcases j.text_eq_or_replace with ⟨-, htext⟩ | ⟨-, -, hreplaced, -⟩
      · rw [joined_found, source_found, htext, ih hmore]
      · rw [hj] at hreplaced
        cases hreplaced

end Judged

section Judge
variable {σ : Type} {answer : σ → Literal → Option Text × σ} {s : σ} {c : Clause}

/-- The new target that a clause gets from an answer in the state `s`. An escaped literal is not
asked about, and an answer that is the old target does not count. -/
def Clause.retarget? (answer : σ → Literal → Option Text × σ) (s : σ) (c : Clause) : Option Text :=
  if c.literal.isEscaped then none else (answer s c.literal).1.filter (· ≠ c.literal.target)

theorem retarget?_of_eq_some {new : Text} (hescaped : c.literal.isEscaped = false)
    (hnew : (answer s c.literal).1 = some new) :
    c.retarget? answer s = if new = c.literal.target then none else some new := by
  by_cases hsame : new = c.literal.target <;>
    simp [Clause.retarget?, hescaped, hnew, Option.filter, hsame]

theorem judge_of_isEscaped (h : c.literal.isEscaped = true) :
    judge answer s c = (⟨c, .skip⟩, s) := by
  simp [judge, h]

theorem judge_of_not_isEscaped (h : c.literal.isEscaped = false) :
    judge answer s c =
      (⟨c, (c.retarget? answer s).elim .keep .replace⟩, (answer s c.literal).2) := by
  rcases hanswer : answer s c.literal with ⟨none | new, s'⟩
  · simp [judge, Clause.retarget?, h, hanswer]
  · have hnew := retarget?_of_eq_some h (congrArg Prod.fst hanswer)
    by_cases hsame : new = c.literal.target <;> simp [judge, h, hanswer, hnew, hsame]

/-- A clause is replaced if it is not escaped and the answer is a new target. -/
theorem verdict_judge_eq_replace_iff {new : Text} :
    (judge answer s c).1.verdict = .replace new ↔
      c.literal.isEscaped = false ∧ (answer s c.literal).1 = some new ∧
        new ≠ c.literal.target := by
  cases h : c.literal.isEscaped with
  | true => simp [judge_of_isEscaped h]
  | false =>
    have hverdict : (judge answer s c).1.verdict = .replace new ↔
        c.retarget? answer s = some new := by
      rw [judge_of_not_isEscaped h]
      cases c.retarget? answer s <;> simp
    rw [hverdict]
    simp [Clause.retarget?, h, Option.filter_eq_some_iff]

end Judge

section Pass
variable {σ : Type} (answer : σ → Literal → Option Text × σ)

/-- The clauses of a text with what a pass makes of each. -/
def judgedClauses (s : σ) (given : Text) : List Judged :=
  (judgeAll answer s (scan Clause.recognise given)).1.filterMap Piece.found?

/-- Literals with the answers put in. An escaped literal is not asked about. -/
def retarget : σ → List Literal → List Literal
  | _, [] => []
  | s, l :: rest =>
    if l.isEscaped then l :: retarget s rest
    else match answer s l with
      | (none, s') => l :: retarget s' rest
      | (some new, s') => { l with target := new } :: retarget s' rest

theorem clause_judge (s : σ) (c : Clause) : (judge answer s c).1.clause = c := by
  cases h : c.literal.isEscaped with
  | true => rw [judge_of_isEscaped h]
  | false => rw [judge_of_not_isEscaped h]

theorem map_clause_judgeAll (s : σ) (pieces : List (Piece Clause)) :
    (judgeAll answer s pieces).1.map (Piece.map Judged.clause) = pieces := by
  induction pieces generalizing s with
  | nil => rfl
  | cons piece more ih =>
    cases piece with
    | plain c => simp [judgeAll, Piece.map, ih]
    | found c => simp [judgeAll, Piece.map, ih, clause_judge]

theorem map_clause_judgedClauses (s : σ) (given : Text) :
    (judgedClauses answer s given).map Judged.clause = clauses given := by
  have hpieces := map_clause_judgeAll answer s (scan Clause.recognise given)
  rw [clauses, ← hpieces, judgedClauses, List.map_filterMap, List.filterMap_map]
  congr 1
  funext piece
  cases piece <;> rfl

theorem source_judgeAll (s : σ) (given : Text) :
    Judged.source (judgeAll answer s (scan Clause.recognise given)).1 = given := by
  rw [Judged.source_eq, map_clause_judgeAll, Clause.flatMap_text_scan_recognise]

/-- One literal is answered as one clause is judged. -/
theorem retarget_cons (s : σ) (c : Clause) (rest : List Literal) :
    retarget answer s (c.literal :: rest) =
      (judge answer s c).1.outcome.literal :: retarget answer (judge answer s c).2 rest := by
  rw [retarget, judge]
  split
  · rfl
  · rcases answer s c.literal with ⟨none | new, s'⟩
    · rfl
    · by_cases hnew : new = c.literal.target
      · subst hnew
        simp [Judged.outcome]
      · simp [Judged.outcome, hnew]

theorem outcomes_judgeAll (s : σ) (pieces : List (Piece Clause)) :
    ((judgeAll answer s pieces).1.map (Piece.map Judged.outcome)).filterMap
        (fun p => p.found?.map Clause.literal) =
      retarget answer s (pieces.filterMap fun p => p.found?.map Clause.literal) := by
  induction pieces generalizing s with
  | nil => rfl
  | cons piece more ih =>
    cases piece with
    | plain c => simpa [judgeAll, Piece.map, Piece.found?] using ih s
    | found c =>
      have htail := ih (judge answer s c).2
      exact (congrArg _ htail).trans (retarget_cons answer s c _).symm

/-- The text after a pass is what the judged pieces make, replaced or not. -/
theorem result_substitute (s : σ) (given : Text) :
    (substitute answer s given).1.result given =
      Judged.joined (judgeAll answer s (scan Clause.recognise given)).1 := by
  simp only [substitute, assemble, Substitution.result]
  split
  · rename_i hcount
    rw [Judged.joined_of_not_replaced, source_judgeAll]
    · rfl
    · intro j hj
      have hnot := List.countP_eq_zero.1 hcount j hj
      simpa using hnot
  · rfl

/-- A pass whose answers fit keeps every literal in its place, unless a literal is left open before a
line break that it takes out. -/
theorem literals_substitute (s : σ) (given : Text)
    (hfits : ∀ j ∈ judgedClauses answer s given, j.Fitting) :
    literals ((substitute answer s given).1.result given) = retarget answer s (literals given) ∨
      Judged.OpensIn (judgeAll answer s (scan Clause.recognise given)).1 := by
  rcases Judged.scan_joined (map_clause_judgeAll answer s _) hfits with hscan | hopens
  · refine Or.inl ?_
    rw [result_substitute, literals, hscan, outcomes_judgeAll]
    rfl
  · exact Or.inr hopens

theorem map_quote_retarget (s : σ) (ls : List Literal) :
    (retarget answer s ls).map Literal.quote = ls.map Literal.quote := by
  induction ls generalizing s with
  | nil => rfl
  | cons l rest ih =>
    rw [retarget]
    split
    · rw [List.map_cons, List.map_cons, ih]
    · split <;> rw [List.map_cons, List.map_cons, ih]

variable {answer}

theorem found_judgeAll (s : σ) (c : Clause) (more : List (Piece Clause)) :
    (judgeAll answer s (.found c :: more)).1.filterMap Piece.found? =
      (judge answer s c).1 ::
        (judgeAll answer (judge answer s c).2 more).1.filterMap Piece.found? := rfl

/-- Each clause is judged in some state that the pass has come to. -/
theorem exists_judge_of_mem_judgeAll {s : σ} {pieces : List (Piece Clause)} {j : Judged}
    (hj : j ∈ (judgeAll answer s pieces).1.filterMap Piece.found?) :
    ∃ s', j = (judge answer s' j.clause).1 := by
  induction pieces generalizing s with
  | nil => cases hj
  | cons piece more ih =>
    cases piece with
    | plain c => exact ih hj
    | found c =>
      rw [found_judgeAll, List.mem_cons] at hj
      rcases hj with rfl | hj
      · exact ⟨s, by rw [clause_judge]⟩
      · exact ih hj

/-- Judged clauses are fitting if all answers to well-formed clauses are fit for them. -/
theorem fitting_of_mem_judgedClauses
    (hanswer : ∀ s (c : Clause), c.Valid → ∀ new, (answer s c.literal).1 = some new →
      Judged.Fits c.literal new)
    {s : σ} {given : Text} {j : Judged} (hj : j ∈ judgedClauses answer s given) : j.Fitting := by
  have hvalid : j.clause.Valid := by
    refine valid_of_mem_clauses (s := given) ?_
    rw [← map_clause_judgedClauses answer s given]
    exact List.mem_map_of_mem hj
  refine ⟨hvalid, ?_⟩
  intro new hnew
  obtain ⟨s', hs'⟩ := exists_judge_of_mem_judgeAll hj
  rw [hs', verdict_judge_eq_replace_iff] at hnew
  exact hanswer s' _ hvalid new hnew.2.1

end Pass

/-- A text without quotes and line breaks. -/
structure Unquoted (t : Text) : Prop where
  no_break : '\n' ∉ t
  no_quote : ∀ q : Quote, q.char ∉ t

theorem Unquoted.inTarget {t : Text} (h : Unquoted t) (q : Quote) {x : Char} (hx : x ∈ t) :
    Clause.inTarget q.char x = true :=
  Clause.inTarget_iff.2 ⟨fun hq => h.no_quote q (hq ▸ hx), fun hb => h.no_break (hb ▸ hx)⟩

/-- A target that can stand between any two quotes. -/
structure Quotable (target : Text) : Prop extends Unquoted target where
  ne_nil : target ≠ []

theorem Quotable.fits {target : Text} (h : Quotable target) (l : Literal) :
    Judged.Fits l target where
  ne_nil := h.ne_nil
  inTarget _ hx := h.toUnquoted.inTarget l.quote hx
  quotes q hq := absurd hq (h.no_quote q)

/-- A pass whose answers are quotable, and that loses no line break, leaves all literals where
they were: same quotes, and the targets that were answered. -/
theorem literals_substitute_of_quotable {σ : Type} (answer : σ → Literal → Option Text × σ)
    (s : σ) (given : Text)
    (hanswer : ∀ s l new, (answer s l).1 = some new → Quotable new)
    (hblanks : ∀ j ∈ judgedClauses answer s given, j.isReplaced = true → '\n' ∉ j.clause.blanks) :
    let after := literals ((substitute answer s given).1.result given)
    after = retarget answer s (literals given) ∧
      after.map Literal.quote = (literals given).map Literal.quote := by
  have hfits : ∀ j ∈ judgedClauses answer s given, j.Fitting := fun j hj =>
    fitting_of_mem_judgedClauses (fun s c _ new hnew => (hanswer s _ new hnew).fits _) hj
  have hlits : literals ((substitute answer s given).1.result given) =
      retarget answer s (literals given) := by
    refine (literals_substitute answer s given hfits).resolve_right ?_
    rintro ⟨q, before, j, after, hpieces, ⟨hreplaced, hbreak⟩, -⟩
    refine hblanks j ?_ hreplaced hbreak
    rw [judgedClauses, hpieces, List.filterMap_append]
    exact List.mem_append_right _ List.mem_cons_self
  refine ⟨hlits, ?_⟩
  rw [hlits]
  exact map_quote_retarget answer s _

/-- Answers the first question only. -/
def answerOnce (new : Text) (asked : Bool) (_ : Literal) : Option Text × Bool :=
  (if asked then none else some new, true)

/-- The first literal is left open at the end of its line, and the last one holds the quote that
opened it; the clause between them is answered. -/
theorem literals_substitute_answerOnce :
    let given := "from \"x\nfrom  './a' from 'b\"c'".toList
    (literals ((substitute (answerOnce "@/a".toList) false given).1.result given)).map
        Literal.target = ["@/a".toList, "b\"c".toList] ∧
      literals ((substitute (answerOnce "@/a".toList) false given).1.result given) =
        retarget (answerOnce "@/a".toList) false (literals given) := by
  refine ⟨by decide, (literals_substitute_of_quotable _ _ _ ?_ (by decide)).1⟩
  intro asked l new hnew
  cases asked with
  | true => cases hnew
  | false =>
    obtain rfl := Option.some.inj hnew
    exact ⟨⟨by decide, fun q => by cases q <;> decide⟩, by decide⟩

end ImportAlias
