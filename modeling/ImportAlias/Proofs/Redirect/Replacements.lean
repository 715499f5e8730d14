import ImportAlias.Proofs.Clause.Frame
import ImportAlias.Proofs.Redirect.Simultaneous
import ImportAlias.Settings

/-!
# Which clauses are redirected

Each pass takes the clauses of its kind out of the text that the passes before it have made
(`Redirect.taken`). A pass neither makes nor destroys a clause with another legacy target, so that
the clauses that are taken out are those that stand in the given text. They are loose: the quote
that ends the target may be another one than the quote before it, and it may be the end of something
else.
-/
namespace ImportAlias

section Taken
variable {α : Type} {recognise : Text → Option (α × Nat)}

/-- Gives what is recognised with its text. -/
def withText (recognise : Text → Option (α × Nat)) (s : Text) : Option ((α × Text) × Nat) :=
  (recognise s).map fun (a, n) => ((a, s.take n), n)

theorem withText_of_none {s : Text} (h : recognise s = none) : withText recognise s = none := by
  rw [withText, h]
  rfl

theorem withText_of_some {s : Text} {a : α} {n : Nat} (h : recognise s = some (a, n)) :
    withText recognise s = some ((a, s.take n), n) := by
  rw [withText, h]
  rfl

theorem Advances.withText (h : Advances recognise) : Advances (withText recognise) := by
  intro s found n hsome
  obtain ⟨⟨a, m⟩, hr, heq⟩ := Option.map_eq_some_iff.1 hsome
  obtain ⟨-, rfl⟩ := Prod.mk.inj heq
  exact h s a m hr

/-- The texts of all finds, from left to right. -/
def foundTexts (recognise : Text → Option (α × Nat)) (s : Text) : List Text :=
  ((scan (withText recognise) s).filterMap Piece.found?).map Prod.snd

/-- The scan that gives the texts finds the same, and its pieces make the text. -/
theorem scan_withText (hadvances : Advances recognise) (s : Text) :
    (scan (withText recognise) s).map (Piece.map Prod.fst) = scan recognise s ∧
      (scan (withText recognise) s).flatMap (Piece.text Prod.snd) = s := by
  induction s using scan_induction hadvances with
  | nil => exact ⟨rfl, rfl⟩
  | plain c rest hnone ih =>
    rw [scan_cons_of_none (withText_of_none hnone)]
    exact ⟨congrArg (Piece.plain c :: ·) ih.1, congrArg (c :: ·) ih.2⟩
  | found s a n hr ih =>
    rw [scan_of_some hadvances.withText (withText_of_some hr)]
    refine ⟨congrArg (Piece.found a :: ·) ih.1, ?_⟩
    rw [List.flatMap_cons, ih.2]
    exact List.take_append_drop n s

end Taken

namespace Redirect
open LooseClause

/-- The text that one pass makes. -/
def next (target : Text) (l : Legacy) (s : Text) : Text :=
  (replaceAll target (.legacy l) s).1.getD s

/-- The texts that are taken out, pass by pass. -/
def taken (target : Text) : List Legacy → Text → List Text
  | [], _ => []
  | l :: ls, s => foundTexts l.recognise s ++ taken target ls (next target l s)

/-! ## Clauses in the text of a pass -/

section Standing
variable {targets targets' : Set Text} {target s out : Text} {n : Nat} {c : LooseClause}

theorem Quiet.stands_behind {front rest : Text} (h : Quiet targets front rest) (hc : c.Of targets)
    (hin : c.text <:+: front ++ rest) : c.text <:+: rest := by
  induction front with
  | nil => exact hin
  | cons x front ih =>
    rcases List.infix_cons_iff.1 hin with hstart | hin
    · exact absurd ⟨c, hc, hstart⟩ (h _ (List.suffix_refl _) (by simp))
    · exact ih h.of_cons hin

/-- No clause starts inside another one. -/
theorem eq_or_stands_behind {d : LooseClause} {rest : Text} (happart : Apart targets)
    (happart' : Apart targets') (hd : d.Of targets) (hc : c.Of targets')
    (hin : c.text <:+: d.text ++ rest) : c = d ∨ c.text <:+: rest := by
  obtain ⟨tail, htext, htail⟩ := text_eq_cons happart hd
  have hquote := happart.no_quote _ hd.target
  have hquote' := happart'.no_quote _ hc.target
  rw [htext, List.cons_append] at hin
  rcases List.infix_cons_iff.1 hin with ⟨after, hafter⟩ | hin
  · rw [← List.cons_append, ← htext] at hafter
    exact Or.inl (eq_of_text_append hc hd hquote' hquote hafter).1
  · exact Or.inr ((quiet_of_not_mem htail rest).stands_behind hc hin)

/-- A pass makes no clause. -/
theorem Pass.stands_of_output (happart : Apart targets') (hinert : Inert targets' target)
    (hc : c.Of targets') (h : Pass targets target s out n) (hin : c.text <:+: out) :
    c.text <:+: s := by
  induction h with
  | done => exact hin
  | replace _ _ ih =>
    have hbehind := (hinert.quiet_render happart.no_quote _ _).stands_behind hc hin
    exact (ih hbehind).trans (List.suffix_append _ _).isInfix
  | keep _ hrest ih =>
    rcases List.infix_cons_iff.1 hin with hstart | hin
    · exact ((hrest.text_prefix_cons_iff happart hc _).1 hstart).isInfix
    · exact (ih hin).trans (List.suffix_cons _ _).isInfix

/-- A pass leaves each clause that has none of its targets. -/
theorem Pass.stands_in_output (happart : Apart targets) (happart' : Apart targets')
    (hc : c.Of targets') (hother : c.target ∉ targets) (h : Pass targets target s out n)
    (hin : c.text <:+: s) : c.text <:+: out := by
  induction h with
  | done => exact hin
  | replace hd _ ih =>
    rcases eq_or_stands_behind happart happart' hd hc hin with rfl | hin
    · exact absurd hd.target hother
    · exact (ih hin).trans (List.suffix_append _ _).isInfix
  | keep _ hrest ih =>
    rcases List.infix_cons_iff.1 hin with hstart | hin
    · exact ((hrest.text_prefix_cons_iff happart' hc _).2 hstart).isInfix
    · exact (ih hin).trans (List.suffix_cons _ _).isInfix

end Standing

/-! ## What is taken out -/

/-- A pass takes out the clauses of its kind that stand in the text. -/
theorem mem_foundTexts_iff {l : Legacy} {s t : Text} :
    t ∈ foundTexts l.recognise s ↔
      ∃ c : LooseClause, c.Of l.targets ∧ c.text = t ∧ c.text <:+: s := by
  unfold foundTexts
  induction s using scan_induction l.advances_recognise with
  | nil =>
    refine ⟨fun hnone => absurd hnone List.not_mem_nil, ?_⟩
    rintro ⟨c, -, -, hin⟩
    cases List.infix_nil.1 hin
  | plain x rest hnone ih =>
    rw [scan_cons_of_none (withText_of_none hnone), found?_plain, ih]
    refine exists_congr fun c => and_congr_right fun hc => and_congr_right fun _ => ?_
    have hnot : ¬ c.text <+: x :: rest :=
      fun hstart => not_startsClause_of_recognise hnone ⟨c, hc, hstart⟩
    rw [List.infix_cons_iff, or_iff_right hnot]
  | found s q n hr ih =>
    rw [scan_of_some l.advances_recognise.withText (withText_of_some hr), found?_found,
      List.map_cons, List.mem_cons, ih]
    obtain ⟨d, hd, ⟨rest, rfl⟩, -, rfl⟩ := Legacy.recognise_eq_some_iff.1 hr
    rw [List.take_left, List.drop_left]
    constructor
    · rintro (rfl | ⟨c, hc, rfl, hin⟩)
      · exact ⟨d, hd, rfl, (List.prefix_append _ _).isInfix⟩
      · exact ⟨c, hc, rfl, hin.trans (List.suffix_append _ _).isInfix⟩
    · rintro ⟨c, hc, rfl, hin⟩
      rcases eq_or_stands_behind l.apart_targets l.apart_targets hd hc hin with rfl | hin
      · exact Or.inl rfl
      · exact Or.inr ⟨c, hc, rfl, hin⟩

theorem mem_taken_iff {target : Text} {ls : List Legacy}
    (hinert : Inert (Legacy.targetsOf ls) target) {s t : Text} :
    t ∈ taken target ls s ↔
      ∃ c : LooseClause, c.Of (Legacy.targetsOf ls) ∧ c.text = t ∧ c.text <:+: s := by
  induction ls generalizing s with
  | nil =>
    refine ⟨fun hnone => absurd hnone List.not_mem_nil, ?_⟩
    rintro ⟨c, hc, -, -⟩
    obtain ⟨l, hnone, -⟩ := hc.target
    cases hnone
  | cons l ls ih =>
    have hpass := pass_replaceAll target l s
    have happart := Legacy.apart_targetsOf ls
    rw [Legacy.targetsOf_cons] at hinert ⊢
    have hrest := hinert.mono Set.subset_union_right
    rw [taken, List.mem_append, mem_foundTexts_iff, ih hrest]
    constructor
    · rintro (⟨c, hc, rfl, hin⟩ | ⟨c, hc, rfl, hin⟩)
      · exact ⟨c, hc.mono Set.subset_union_left, rfl, hin⟩
      · have hbefore := hpass.stands_of_output happart hrest hc hin
        exact ⟨c, hc.mono Set.subset_union_right, rfl, hbefore⟩
    · rintro ⟨c, hc, rfl, hin⟩
      by_cases hfirst : c.target ∈ l.targets
      · exact Or.inl ⟨c, ⟨hc.blanks_ne, hc.blanks, hfirst⟩, rfl, hin⟩
      · have hlater : c.Of (Legacy.targetsOf ls) :=
          ⟨hc.blanks_ne, hc.blanks, hc.target.resolve_left hfirst⟩
        have hafter := hpass.stands_in_output l.apart_targets happart hlater hfirst hin
        exact Or.inr ⟨c, hlater, rfl, hafter⟩

theorem gaps_pieces (l : Legacy) (s : Text) :
    gaps ((Finder.legacy l).pieces s) = gaps (scan (withText l.recognise) s) := by
  rw [Finder.pieces, gaps_map, ← (scan_withText l.advances_recognise s).1, gaps_map]

theorem length_foundTexts (target : Text) (l : Legacy) (s : Text) :
    (foundTexts l.recognise s).length = (replaceAll target (.legacy l) s).2 := by
  have hcount := ((pass_replaceAll target l s).unique l.apart_targets.no_quote
    (pass_pieces target l s)).2
  have hgaps := congrArg List.length (gaps_pieces l s)
  rw [length_gaps, length_gaps] at hgaps
  rw [foundTexts, List.length_map, hcount]
  omega

/-- A pass leaves the gaps as they are, and puts the target in place of the texts between them. -/
theorem interleave_foundTexts (target : Text) (l : Legacy) (s : Text) :
    let pieces := (Finder.legacy l).pieces s
    interleave (gaps pieces) (foundTexts l.recognise s) = s ∧
      interleave (gaps pieces) ((pieces.filterMap Piece.found?).map (render target)) =
        next target l s := by
  intro pieces
  constructor
  · rw [gaps_pieces, foundTexts, interleave_gaps]
    exact (scan_withText l.advances_recognise s).2
  · rw [interleave_gaps]
    exact ((pass_pieces target l s).unique l.apart_targets.no_quote
      (pass_replaceAll target l s)).1

theorem length_taken (target : Text) (ls : List Legacy) (s : Text) :
    (taken target ls s).length = (replaceEach target (ls.map .legacy) s).2 := by
  induction ls generalizing s with
  | nil => rfl
  | cons l ls ih =>
    rw [taken, List.length_append, length_foundTexts target, ih, next, List.map_cons, replaceEach]
    split
    · rename_i n hn
      have hnone : (replaceAll target (.legacy l) s).1 = none := by rw [hn]
      rw [replaceAll_eq_none_iff.1 hnone, hnone]
      exact Nat.zero_add _
    · rename_i after n hn
      rw [hn]
      rfl

theorem inert_shared : Inert (Legacy.targetsOf Legacy.all) ({} : Settings).sharedTarget where
  not_mem := shared_not_mem_targetsOf
  no_quote q := by cases q <;> decide
  no_from := by decide

/-- Each text that is replaced is a loose clause of the given text with a legacy target, and each
such clause is replaced. So all replaced clauses have the same quote on both sides exactly if all
clauses with a legacy target do. -/
theorem taken_legacy_iff (given : Text) :
    let target := ({} : Settings).sharedTarget
    let legacy := Legacy.targetsOf Legacy.all
    let texts := taken target Legacy.all given
    (∀ l s, let pieces := (Finder.legacy l).pieces s
      interleave (gaps pieces) (foundTexts l.recognise s) = s ∧
        interleave (gaps pieces) ((pieces.filterMap Piece.found?).map (render target)) =
          next target l s) ∧
      texts.length = ((Redirect.legacy target).apply given).count ∧
      (∀ t, t ∈ texts ↔ ∃ c : LooseClause, c.Of legacy ∧ c.text = t ∧ c.text <:+: given) ∧
      ((∀ t ∈ texts, ∃ c : LooseClause, c.Of legacy ∧ c.text = t ∧ c.closing = c.opening) ↔
        ∀ c : LooseClause, c.Of legacy → c.text <:+: given → c.closing = c.opening) := by
  intro target legacy texts
  have hmem : ∀ t, t ∈ texts ↔ ∃ c : LooseClause, c.Of legacy ∧ c.text = t ∧ c.text <:+: given :=
    fun t => mem_taken_iff inert_shared
  have hquote := (Legacy.apart_targetsOf Legacy.all).no_quote
  refine ⟨interleave_foundTexts target, length_taken target Legacy.all given, hmem, ?_⟩
  constructor
  · intro hall c hc hin
    obtain ⟨d, hd, hsame, hclosing⟩ := hall c.text ((hmem _).2 ⟨c, hc, rfl, hin⟩)
    have hwhole : d.text ++ [] = c.text ++ [] := by rw [hsame]
    obtain ⟨rfl, -⟩ :=
      eq_of_text_append hd hc (hquote _ hd.target) (hquote _ hc.target) hwhole
    exact hclosing
  · intro hall t ht
    obtain ⟨c, hc, rfl, hin⟩ := (hmem t).1 ht
    exact ⟨c, hc, rfl, hall c hc hin⟩

/-- In a string that quotes the start of a clause, the quote that ends the string is taken for the
end of the target. It is replaced, and the string is left open. -/
theorem taken_legacy_open_string :
    let target := ({} : Settings).sharedTarget
    let given := "const s = \"moved from './types\";".toList
    let made := (Redirect.legacy target).apply given
    made.result given = "const s = \"moved from '@tgt/shared';".toList ∧ made.count = 1 ∧
      ¬ ∀ t ∈ taken target Legacy.all given, ∃ c : LooseClause,
        c.Of (Legacy.targetsOf Legacy.all) ∧ c.text = t ∧ c.closing = c.opening := by
  intro target given made
  refine ⟨by decide +kernel, by decide +kernel, ?_⟩
  rw [(taken_legacy_iff given).2.2.2]
  intro hall
  have htarget : "./types".toList ∈ Legacy.targetsOf Legacy.all :=
    ⟨⟨.climbing, .types⟩, by decide, "./".toList, ⟨.here .none, by decide⟩, _, rfl, rfl⟩
  have hodd : LooseClause.Of (Legacy.targetsOf Legacy.all)
      ⟨[' '], .single, "./types".toList, .double⟩ :=
    ⟨by simp, by simp [isBlank_space], htarget⟩
  have hclosing := hall _ hodd (by decide)
  cases hclosing

end Redirect

end ImportAlias
