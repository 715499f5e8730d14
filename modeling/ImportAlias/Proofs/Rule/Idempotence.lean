import ImportAlias.Proofs.Clause.Extraction
import ImportAlias.Proofs.Redirect.Simultaneous
import ImportAlias.Proofs.Target.Characters
import ImportAlias.Rule

/-!
# Applying a rule to what it has made

Anchoring and resolving give targets that are not relative, so they leave their own answers alone.
A second pass can still find work: a clause that is replaced loses the line breaks between `from`
and its quote, and a literal that was left open before it may then be closed behind it. Where the
text leaves no literal open before such a clause (`LeavesOpen`), the second pass has nothing to do;
where it does, there must be a new literal that the rule answers.
-/
namespace ImportAlias

section Answers
variable (newTarget? : Text → Option Text)

/-- Whether a literal gets a new target. -/
def Literal.isAnswered (l : Literal) : Bool :=
  !l.isEscaped && (newTarget? l.target).any (· ≠ l.target)

/-- A literal with its answer put in. -/
def Literal.answered (l : Literal) : Literal :=
  if l.isEscaped then l else { l with target := (newTarget? l.target).getD l.target }

/-- A literal is left open before a clause that is answered and has a line break before its quote, and
the quote of the open literal comes again from there on. -/
def LeavesOpen (given : Text) : Prop :=
  ∃ (front : Text) (c : Clause) (after : Text) (q : Quote),
    given = front ++ (c.text ++ after) ∧ clauses given = clauses front ++ c :: clauses after ∧
      c.literal.isAnswered newTarget? = true ∧ '\n' ∈ c.blanks ∧ EndsOpen q front ∧
      q.char ∈ c.text ++ after

variable {newTarget?} {σ : Type} {answer : σ → Literal → Option Text × σ}

theorem isAnswered_iff {l : Literal} :
    l.isAnswered newTarget? = true ↔
      l.isEscaped = false ∧ ∃ new, newTarget? l.target = some new ∧ new ≠ l.target := by
  cases hnew : newTarget? l.target <;> simp [Literal.isAnswered, hnew]

/-- An answer that does not depend on the state replaces the clauses it answers. -/
theorem isReplaced_iff (hpure : ∀ s l, (answer s l).1 = newTarget? l.target) {s : σ}
    {given : Text} {j : Judged} (hj : j ∈ judgedClauses answer s given) :
    j.isReplaced = true ↔ j.clause.literal.isAnswered newTarget? = true := by
  obtain ⟨s', hs'⟩ := exists_judge_of_mem_judgeAll hj
  have hverdict : j.isReplaced = true ↔ ∃ new, j.verdict = .replace new := by
    cases hv : j.verdict <;> simp [Judged.isReplaced, hv]
  rw [hverdict, isAnswered_iff]
  constructor
  · rintro ⟨new, hnew⟩
    rw [hs', verdict_judge_eq_replace_iff, hpure] at hnew
    exact ⟨hnew.1, new, hnew.2⟩
  · rintro ⟨hescaped, new, hnew, hne⟩
    refine ⟨new, ?_⟩
    rw [hs', verdict_judge_eq_replace_iff, hpure]
    exact ⟨hescaped, hnew, hne⟩

theorem count_substitute_eq_zero_iff (hpure : ∀ s l, (answer s l).1 = newTarget? l.target)
    (s : σ) (given : Text) :
    (substitute answer s given).1.count = 0 ↔
      ∀ l ∈ literals given, l.isAnswered newTarget? = false := by
  have hcount : (substitute answer s given).1.count =
      (judgedClauses answer s given).countP Judged.isReplaced := rfl
  rw [hcount, List.countP_eq_zero, literals_eq_map_clauses,
    ← map_clause_judgedClauses answer s given]
  simp only [List.map_map, List.forall_mem_map, Function.comp_apply]
  refine forall₂_congr fun j hj => ?_
  rw [isReplaced_iff hpure hj, Bool.not_eq_true]

theorem result_of_count_eq_zero {s : σ} {given : Text}
    (h : (substitute answer s given).1.count = 0) :
    (substitute answer s given).1.result given = given := by
  have hnone : (substitute answer s given).1.replaced? = none := if_pos h
  rw [Substitution.result, hnone]
  rfl

theorem retarget_eq_map (hpure : ∀ s l, (answer s l).1 = newTarget? l.target) (s : σ)
    (ls : List Literal) : retarget answer s ls = ls.map (Literal.answered newTarget?) := by
  induction ls generalizing s with
  | nil => rfl
  | cons l rest ih =>
    have hl := hpure s l
    rw [retarget, List.map_cons, Literal.answered]
    split
    · rw [ih]
    · rcases hanswer : answer s l with ⟨none | new, s'⟩
      · rw [hanswer] at hl
        simp [← hl, ih]
      · rw [hanswer] at hl
        simp [← hl, ih]

/-- What is left open among the judged clauses is left open in the text. -/
theorem leavesOpen_of_opensIn (hpure : ∀ s l, (answer s l).1 = newTarget? l.target) {s : σ}
    {given : Text}
    (h : Judged.OpensIn (judgeAll answer s (scan Clause.recognise given)).1) :
    LeavesOpen newTarget? given := by
  have hpieces := map_clause_judgeAll answer s (scan Clause.recognise given)
  have hsource := source_judgeAll answer s given
  obtain ⟨q, before, j, after, hsplit, ⟨hreplaced, hbreak⟩, hopen, hq⟩ := h
  have hj : j ∈ judgedClauses answer s given := by
    rw [judgedClauses, hsplit, List.filterMap_append]
    exact List.mem_append_right _ List.mem_cons_self
  rw [hsplit, List.map_append] at hpieces
  rw [hsplit, Judged.source_append, Judged.source_found] at hsource
  have hscan := hpieces.symm
  rw [← hsource] at hscan
  obtain ⟨hfront, hrest⟩ := Clause.scan_of_append hscan (Judged.source_eq before).symm
  have hclause : scan Clause.recognise (j.clause.text ++ Judged.source after) =
      [.found j.clause] ++ after.map (Piece.map Judged.clause) := hrest
  obtain ⟨-, hafter⟩ := Clause.scan_of_append hclause (List.append_nil _)
  refine ⟨Judged.source before, j.clause, Judged.source after, q, hsource.symm, ?_,
    (isReplaced_iff hpure hj).1 hreplaced, hbreak, hopen, hq⟩
  rw [clauses, clauses, clauses, ← hpieces, hfront, hafter, List.filterMap_append]
  rfl

/-- Unless a literal is left open, the new text holds the old literals with their answers. -/
theorem literals_of_not_leavesOpen (hpure : ∀ s l, (answer s l).1 = newTarget? l.target)
    (hfits : ∀ c : Clause, c.Valid → ∀ new, newTarget? c.literal.target = some new →
      Judged.Fits c.literal new)
    (s : σ) {given : Text} (hopen : ¬ LeavesOpen newTarget? given) :
    literals ((substitute answer s given).1.result given) =
      (literals given).map (Literal.answered newTarget?) := by
  have hfitting : ∀ j ∈ judgedClauses answer s given, j.Fitting := by
    intro j hj
    refine fitting_of_mem_judgedClauses ?_ hj
    intro s c hc new hnew
    exact hfits c hc new (hpure s c.literal ▸ hnew)
  rw [← retarget_eq_map hpure s]
  exact (literals_substitute answer s given hfitting).resolve_right
    fun h => hopen (leavesOpen_of_opensIn hpure h)

/-- A rule that leaves its own answers alone does not answer a literal it has answered. -/
theorem isAnswered_answered (hidle : ∀ t new, newTarget? t = some new → newTarget? new = none)
    (l : Literal) : (l.answered newTarget?).isAnswered newTarget? = false := by
  rw [Bool.eq_false_iff, Ne, isAnswered_iff]
  rintro ⟨hescaped, new, hnew, hne⟩
  unfold Literal.answered at hescaped hnew hne
  split at hescaped
  · simp_all
  · cases hl : newTarget? l.target with
    | none => simp_all
    | some first =>
      have hagain := hidle _ _ hl
      simp_all

end Answers

namespace Judged

/-- Characters that no quote is among can be put anywhere in a target. -/
theorem fits_of_mem {c : Clause} {new : Text} (hc : c.Valid) (hne : new ≠ [])
    (hmem : ∀ x ∈ new, x ∈ c.literal.target ∨ Unquoted [x]) : Fits c.literal new where
  ne_nil := hne
  inTarget x hx := by
    rcases hmem x hx with hold | hplain
    · exact hc.target x hold
    · exact hplain.inTarget c.literal.quote (List.mem_singleton_self x)
  quotes q hq := by
    rcases hmem q.char hq with hold | hplain
    · exact hold
    · exact absurd (List.mem_singleton_self q.char) (hplain.no_quote q)

end Judged

theorem Unquoted.singleton {t : Text} (h : Unquoted t) {x : Char} (hx : x ∈ t) : Unquoted [x] where
  no_break hb := h.no_break (List.mem_singleton.1 hb ▸ hx)
  no_quote q hq := h.no_quote q (List.mem_singleton.1 hq ▸ hx)

theorem unquoted_dot : Unquoted ['.'] := ⟨by decide, fun q => by cases q <;> decide⟩

theorem unquoted_slash : Unquoted ['/'] := ⟨by decide, fun q => by cases q <;> decide⟩

namespace Rule

/-- The new target that a rule gives for a target; redirection does not look at targets. -/
def newTarget? (rule : Rule) (relative : Path) : Text → Option Text :=
  match rule with
  | folder importAlias folders => Target.anchor? importAlias folders
  | resolve importAlias => Target.resolveWithAlias? importAlias relative
  | consolidate _ => fun _ => none

/-- The text that a rule makes. -/
def output (rule : Rule) (relative : Path) (given : Text) : Text :=
  (rule.apply relative given).1.result given

/-- A rule has nothing to do in a text. -/
def Settled (rule : Rule) (relative : Path) (given : Text) : Prop :=
  (rule.apply relative given).1.count = 0 ∧ rule.output relative given = given

/-- A literal is left open before a line break that the rule takes out, and the new text has a literal
that the rule answers and that is no literal of the old text, with its answer or without. -/
def Rejoins (rule : Rule) (relative : Path) (given : Text) : Prop :=
  LeavesOpen (rule.newTarget? relative) given ∧
    ∃ l ∈ literals (rule.output relative given),
      l ∉ (literals given).map (Literal.answered (rule.newTarget? relative)) ∧
        l.isAnswered (rule.newTarget? relative) = true

theorem isRelative_newTarget? {rule : Rule} {relative : Path} {target new : Text}
    (h : rule.newTarget? relative target = some new) : Target.isRelative target = true := by
  cases rule with
  | folder importAlias folders => exact (Target.exists_of_anchor? h).1
  | resolve importAlias => exact (Target.exists_of_resolveWithAlias? h).1
  | consolidate redirect => cases h

section Aliased
variable {rule : Rule} {importAlias : Text} {folders : List Text} {relative : Path}

/-- What is put into a text is quotable up to characters of the old target. -/
theorem fits_newTarget? (hrule : rule = .folder importAlias folders ∨ rule = .resolve importAlias)
    (halias : Quotable importAlias) (hdir : Unquoted (Target.directoryText relative))
    {c : Clause} (hc : c.Valid) {new : Text}
    (hnew : rule.newTarget? relative c.literal.target = some new) :
    Judged.Fits c.literal new := by
  rcases hrule with rfl | rfl
  · obtain ⟨-, kept, hkept, -⟩ := Target.exists_of_anchor? hnew
    refine Judged.fits_of_mem hc (by simp [hkept, halias.ne_nil]) ?_
    intro x hx
    rcases Target.mem_anchor? hnew hx with hx | rfl | hx
    · exact Or.inr (halias.toUnquoted.singleton hx)
    · exact Or.inr unquoted_slash
    · exact Or.inl hx
  · obtain ⟨-, rfl⟩ := Target.exists_of_resolveWithAlias? hnew
    refine Judged.fits_of_mem hc (by simp [halias.ne_nil]) ?_
    intro x hx
    rcases List.mem_append.1 hx with hx | hx
    · exact Or.inr (halias.toUnquoted.singleton hx)
    rcases Target.mem_resolve hx with rfl | rfl | hx | hx
    · exact Or.inr unquoted_dot
    · exact Or.inr unquoted_slash
    · exact Or.inr (hdir.singleton hx)
    · exact Or.inl hx

/-- A rule leaves its own answers alone: they start with the alias. -/
theorem newTarget?_newTarget?
    (hrule : rule = .folder importAlias folders ∨ rule = .resolve importAlias)
    (hne : importAlias ≠ []) (hdot : importAlias.head? ≠ some '.') {target new : Text}
    (hnew : rule.newTarget? relative target = some new) : rule.newTarget? relative new = none := by
  have hstart : ∃ rest, new = importAlias ++ rest := by
    rcases hrule with rfl | rfl
    · obtain ⟨-, kept, hkept, -⟩ := Target.exists_of_anchor? hnew
      exact ⟨_, hkept⟩
    · exact ⟨_, (Target.exists_of_resolveWithAlias? hnew).2⟩
  obtain ⟨rest, rfl⟩ := hstart
  cases hagain : rule.newTarget? relative (importAlias ++ rest) with
  | none => rfl
  | some again =>
    have hrelative := isRelative_newTarget? hagain
    rw [Target.isRelative_append hne hdot] at hrelative
    cases hrelative

/-- A rule that answers target by target is a pass whose answers do not depend on its log. -/
theorem exists_substitute (relative : Path)
    (hrule : rule = .folder importAlias folders ∨ rule = .resolve importAlias) :
    ∃ answer : List Log.Record → Literal → Option Text × List Log.Record,
      (∀ log l, (answer log l).1 = rule.newTarget? relative l.target) ∧
        ∀ given, (rule.apply relative given).1 = (substitute answer [] given).1 := by
  rcases hrule with rfl | rfl
  · refine ⟨_, ?_, fun given => rfl⟩
    intro log l
    dsimp only [newTarget?]
    split <;> simp_all
  · refine ⟨_, ?_, fun given => rfl⟩
    intro log l
    dsimp only [newTarget?]
    split <;> simp_all

/-- A rule that counts nothing gives the text back. -/
theorem output_of_count_eq_zero {given : Text}
    (h : (rule.apply relative given).1.count = 0) : rule.output relative given = given := by
  have hasked : ∀ importAlias folders,
      rule = .folder importAlias folders ∨ rule = .resolve importAlias →
      rule.output relative given = given := by
    intro importAlias folders hrule
    obtain ⟨answer, -, happly⟩ := exists_substitute relative hrule
    rw [happly] at h
    rw [output, happly]
    exact result_of_count_eq_zero h
  cases rule with
  | folder importAlias folders => exact hasked importAlias folders (Or.inl rfl)
  | resolve importAlias => exact hasked importAlias [] (Or.inr rfl)
  | consolidate redirect =>
    have hnone : (redirect.apply given).replaced? = none := Redirect.replaceEach_eq_none h
    change (redirect.apply given).result given = given
    rw [Substitution.result, hnone]
    rfl

theorem settled_iff (hrule : rule = .folder importAlias folders ∨ rule = .resolve importAlias)
    {given : Text} : rule.Settled relative given ↔
      ∀ l ∈ literals given, l.isAnswered (rule.newTarget? relative) = false := by
  obtain ⟨answer, hpure, happly⟩ := exists_substitute relative hrule
  have hcount := count_substitute_eq_zero_iff hpure [] given
  rw [← happly] at hcount
  rw [Settled, ← hcount]
  exact ⟨And.left, fun hzero => ⟨hzero, output_of_count_eq_zero hzero⟩⟩

/-- A rule has nothing to do in the text it has made, if the old text leaves no literal open before a
line break that is taken out. -/
theorem settled_output_of_not_leavesOpen
    (hrule : rule = .folder importAlias folders ∨ rule = .resolve importAlias)
    (halias : Quotable importAlias) (hdot : importAlias.head? ≠ some '.')
    (hdir : Unquoted (Target.directoryText relative)) {given : Text}
    (hopen : ¬ LeavesOpen (rule.newTarget? relative) given) :
    rule.Settled relative (rule.output relative given) := by
  obtain ⟨answer, hpure, happly⟩ := exists_substitute relative hrule
  have hlits := literals_of_not_leavesOpen hpure
    (fun c hc new => fits_newTarget? hrule halias hdir hc) [] hopen
  rw [← happly] at hlits
  rw [settled_iff hrule, output, hlits]
  intro l hl
  obtain ⟨old, -, rfl⟩ := List.mem_map.1 hl
  exact isAnswered_answered (fun t new => newTarget?_newTarget? hrule halias.ne_nil hdot) old

end Aliased

/-- A rule has nothing to do in the text it has made, unless it has joined a literal anew across
a line break that it took out. -/
theorem settled_output_iff_not_rejoins (rule : Rule) (importAlias : Text) (folders : List Text)
    (relative : Path) (given : Text)
    (hrule : rule = .folder importAlias folders ∨ rule = .resolve importAlias)
    (halias : Quotable importAlias) (hdot : importAlias.head? ≠ some '.')
    (hdir : Unquoted (Target.directoryText relative)) :
    rule.Settled relative (rule.output relative given) ↔ ¬ rule.Rejoins relative given := by
  constructor
  · rintro hsettled ⟨-, l, hl, -, hanswered⟩
    rw [(settled_iff hrule).1 hsettled l hl] at hanswered
    cases hanswered
  · intro hnot
    by_cases hopen : LeavesOpen (rule.newTarget? relative) given
    · rw [settled_iff hrule]
      intro l hl
      rw [Bool.eq_false_iff]
      intro hanswered
      refine hnot ⟨hopen, l, hl, ?_, hanswered⟩
      intro hold
      obtain ⟨old, -, rfl⟩ := List.mem_map.1 hold
      rw [isAnswered_answered fun t new => newTarget?_newTarget? hrule halias.ne_nil hdot]
        at hanswered
      cases hanswered
    · exact settled_output_of_not_leavesOpen hrule halias hdot hdir hopen

/-- A literal is left open at the end of a line, and the clause that starts there is answered: the
two then stand on one line, and the quote behind the clause closes the open literal. -/
theorem not_settled_of_open_literal :
    let rule := folder "@/".toList ["components".toList]
    let relative := Path.ofText "pages/A.tsx".toList
    let given := "from \"./x from\n'../components/a'\"".toList
    rule.Rejoins relative given ∧ ¬ rule.Settled relative (rule.output relative given) := by
  intro rule relative given
  have hopen : LeavesOpen (rule.newTarget? relative) given := by
    refine ⟨"from \"./x ".toList, ⟨['\n'], ⟨.single, "../components/a".toList⟩⟩, ['"'], .double,
      rfl, by decide +kernel, by decide +kernel, by decide, ?_, by decide⟩
    exact ⟨[], [' '], "./x ".toList, rfl, by decide, by simp [isBlank_space], by decide, by decide⟩
  have hrejoins : rule.Rejoins relative given := ⟨hopen, by decide +kernel⟩
  refine ⟨hrejoins, fun hsettled => ?_⟩
  refine (settled_output_iff_not_rejoins rule "@/".toList ["components".toList] relative given
    (Or.inl rfl) ?_ (by decide) ?_).1 hsettled hrejoins
  · exact ⟨⟨by decide, fun q => by cases q <;> decide⟩, by decide⟩
  · exact ⟨by decide +kernel, fun q => by cases q <;> decide +kernel⟩

end Rule

end ImportAlias
