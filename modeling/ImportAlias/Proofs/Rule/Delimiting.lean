import ImportAlias.Proofs.Clause.Frame
import ImportAlias.Proofs.Rule.Idempotence
import ImportAlias.Proofs.Target.Canonical

/-!
# Whether quotes still delimit a resolved target

Resolving a target brings names of directories between its quotes, and they are written there as they
are. The quotes delimit the new target as they did the old one, unless one of these names holds the
same quote or a line break; names that the target climbs out of do no harm.
-/
namespace ImportAlias

/-- The clause that is written for a literal with a new target. -/
def Literal.clause (l : Literal) (new : Text) : Clause := ⟨[' '], ⟨l.quote, new⟩⟩

theorem Literal.text_clause (l : Literal) (new : Text) : (l.clause new).text = l.render new := by
  simp [clause, Clause.text, Literal.text, render]

theorem Literal.valid_clause {l : Literal} {new : Text} (hne : new ≠ [])
    (hquote : l.quote.char ∉ new) (hbreak : '\n' ∉ new) : (l.clause new).Valid where
  blanks_ne := by simp [clause]
  blanks b hb := by
    rw [List.mem_singleton.1 hb]
    exact isBlank_space
  target_ne := hne
  target := Clause.forall_inTarget_iff.2 ⟨hquote, hbreak⟩

/-- A written clause is read back exactly if its target can stand between its quotes. -/
theorem literals_render_iff (l : Literal) (new : Text) :
    literals (l.render new) = [⟨l.quote, new⟩] ↔
      new ≠ [] ∧ l.quote.char ∉ new ∧ '\n' ∉ new := by
  constructor
  · intro h
    rw [literals_eq_map_clauses] at h
    have hmem : (⟨l.quote, new⟩ : Literal) ∈ (clauses (l.render new)).map Clause.literal := by
      rw [h]
      exact List.mem_singleton_self _
    obtain ⟨c, hc, hliteral⟩ := List.mem_map.1 hmem
    have hvalid := valid_of_mem_clauses hc
    have htarget := hvalid.target
    have hne := hvalid.target_ne
    rw [hliteral] at htarget hne
    exact ⟨hne, Clause.forall_inTarget_iff.1 htarget⟩
  · rintro ⟨hne, hquote, hbreak⟩
    have hscan := Clause.scan_text_append (Literal.valid_clause hne hquote hbreak) []
    rw [List.append_nil, Literal.text_clause] at hscan
    rw [literals, hscan]
    rfl

/-- A pass over the text of a single clause. -/
theorem result_substitute_text {σ : Type} {answer : σ → Literal → Option Text × σ} {s : σ}
    {c : Clause} (hc : c.Valid) :
    (substitute answer s c.text).1.result c.text = c.replacedBy (c.retarget? answer s) := by
  have hscan := Clause.scan_text_append hc []
  rw [List.append_nil] at hscan
  rw [result_substitute, hscan, ← text_judge]
  exact List.append_nil _

namespace Rule

/-- What the rule makes of a single clause whose target it answers. -/
theorem output_render {rule : Rule} {importAlias : Text} {folders : List Text} {relative : Path}
    {l : Literal} {new : Text}
    (hrule : rule = .folder importAlias folders ∨ rule = .resolve importAlias)
    (hvalid : (l.clause l.target).Valid) (hescaped : l.isEscaped = false)
    (hnew : rule.newTarget? relative l.target = some new) :
    rule.output relative (l.render l.target) = l.render new := by
  obtain ⟨answer, hpure, happly⟩ := exists_substitute relative hrule
  have hanswer : (answer [] (l.clause l.target).literal).1 = some new := by
    rw [hpure]
    exact hnew
  rw [output, happly, ← Literal.text_clause, result_substitute_text hvalid,
    retarget?_of_eq_some hescaped hanswer]
  split
  · rename_i hsame
    rw [hsame]
    exact Literal.text_clause l l.target
  · rfl

/-- A clause with a resolved target is read back with that target exactly if no name of the directory
that is left in it holds the quote around it or a line break. -/
theorem literals_output_resolve_iff (importAlias : Text) (relative : Path) (l : Literal)
    (halias : Unquoted importAlias) (hrelative : l.isRelative = true)
    (hquote : l.quote.char ∉ l.target) (hbreak : '\n' ∉ l.target) (hescaped : l.isEscaped = false) :
    let rule := resolve importAlias
    let given := l.render l.target
    let new := importAlias ++ Target.resolve relative l.target
    rule.output relative given = l.render new ∧
      (literals (rule.output relative given) = [⟨l.quote, new⟩] ↔
        ∀ name ∈ Target.directorySegments relative,
          name ∈ Target.normalize (Target.directorySegments relative ++ splitOn '/' l.target) →
            l.quote.char ∉ name ∧ '\n' ∉ name) := by
  intro rule given new
  have hne : l.target ≠ [] := by
    intro hnil
    rw [Literal.isRelative, hnil] at hrelative
    cases hrelative
  have hrule : rule = .folder importAlias [] ∨ rule = .resolve importAlias := Or.inr rfl
  have hout : rule.output relative given = l.render new :=
    output_render hrule (Literal.valid_clause hne hquote hbreak) hescaped (if_pos hrelative)
  refine ⟨hout, ?_⟩
  have hquotes : l.quote.char ≠ '.' ∧ l.quote.char ≠ '/' := by cases l.quote <;> decide
  rw [hout, literals_render_iff, List.mem_append, List.mem_append,
    Target.mem_resolve_iff_of_not_mem relative hquote hquotes.1 hquotes.2,
    Target.mem_resolve_iff_of_not_mem relative hbreak (by decide) (by decide)]
  constructor
  · rintro ⟨-, hnoquote, hnobreak⟩ name hdir hleft
    refine ⟨fun hx => hnoquote ?_, fun hx => hnobreak ?_⟩
    · exact Or.inr ⟨name, hdir, hleft, hx⟩
    · exact Or.inr ⟨name, hdir, hleft, hx⟩
  · intro hnames
    refine ⟨?_, ?_, ?_⟩
    · intro hnil
      exact Target.resolve_ne_nil relative l.target (List.append_eq_nil_iff.1 hnil).2
    · rintro (hx | ⟨name, hdir, hleft, hx⟩)
      · exact halias.no_quote l.quote hx
      · exact (hnames name hdir hleft).1 hx
    · rintro (hx | ⟨name, hdir, hleft, hx⟩)
      · exact halias.no_break hx
      · exact (hnames name hdir hleft).2 hx

/-- A directory with an apostrophe in its name: double quotes still delimit the resolved target, and
single quotes end it at the apostrophe. -/
theorem literals_output_resolve_apostrophe :
    let rule := resolve "./".toList
    let relative := Path.ofText "it's/A.tsx".toList
    let single : Literal := ⟨.single, "./x".toList⟩
    let double : Literal := ⟨.double, "./x".toList⟩
    let new := "./it's/x".toList
    literals (rule.output relative (double.render double.target)) = [⟨.double, new⟩] ∧
      literals (rule.output relative (single.render single.target)) = [⟨.single, "./it".toList⟩] ∧
      literals (rule.output relative (single.render single.target)) ≠ [⟨.single, new⟩] := by
  intro rule relative single double new
  have halias : Unquoted "./".toList := ⟨by decide, fun q => by cases q <;> decide⟩
  have hnew : "./".toList ++ Target.resolve relative "./x".toList = new := by decide +kernel
  have hdouble := (literals_output_resolve_iff "./".toList relative double halias (by decide)
    (by decide) (by decide) (by decide)).2
  have hsingle := (literals_output_resolve_iff "./".toList relative single halias (by decide)
    (by decide) (by decide) (by decide)).2
  rw [hnew] at hdouble hsingle
  refine ⟨hdouble.2 (by decide +kernel), by decide +kernel, fun hread => ?_⟩
  have hname := hsingle.1 hread "it's".toList (by decide +kernel) (by decide +kernel)
  exact absurd hname.1 (by decide)

end Rule

end ImportAlias
