import ImportAlias.Proofs.Redirect.Legacy
import ImportAlias.Redirect
import Mathlib.Data.List.Infix

/-!
# Passes one after the other make a single pass

The legacy kinds are redirected one after the other, each in the text that the ones before it
made. `Redirect.Pass` says what a single pass from left to right over one text gives, for a set of
targets. Two passes make one pass for the union of their sets, if the shared target gives the
second pass nothing to do: a clause holds the letter `f` only at its start, so that clauses do not
overlap, and what is put in place of a clause neither starts, ends nor cuts one.
-/
namespace ImportAlias

namespace Redirect
open LooseClause

/-- The text starts with a clause that has one of the targets. -/
def StartsClause (targets : Set Text) (s : Text) : Prop :=
  ∃ c : LooseClause, c.Of targets ∧ c.text <+: s

open Classical in
/-- The number of places of a text at which a clause with one of the targets starts. -/
noncomputable def clauseCount (targets : Set Text) (s : Text) : Nat :=
  s.tails.countP fun u => decide (StartsClause targets u)

/-- A pass from left to right: a clause with one of the targets goes to the shared target, in its
opening quote, and a character that starts no such clause stays. The number counts the clauses. -/
inductive Pass (targets : Set Text) (target : Text) : Text → Text → Nat → Prop
  | done : Pass targets target [] [] 0
  | replace {c : LooseClause} {rest out : Text} {n : Nat} : c.Of targets →
      Pass targets target rest out n →
      Pass targets target (c.text ++ rest) (render target [c.opening.char] ++ out) (n + 1)
  | keep {x : Char} {rest out : Text} {n : Nat} : ¬ StartsClause targets (x :: rest) →
      Pass targets target rest out n → Pass targets target (x :: rest) (x :: out) n

theorem render_eq (target mark : Text) :
    render target mark = ['f', 'r', 'o', 'm', ' '] ++ mark ++ target ++ mark := rfl

section Clauses
variable {targets targets' : Set Text}

theorem StartsClause.exists_cons {s : Text} (h : StartsClause targets s) :
    ∃ rest, s = 'f' :: 'r' :: 'o' :: 'm' :: rest := by
  obtain ⟨c, -, rest, rfl⟩ := h
  exact ⟨_, text_append c rest⟩

theorem startsClause_text_append {c : LooseClause} (hc : c.Of targets) (rest : Text) :
    StartsClause targets (c.text ++ rest) := ⟨c, hc, List.prefix_append _ _⟩

theorem not_startsClause_of_not_mem {front rest : Text} (hfront : 'f' ∉ front) (hne : front ≠ []) :
    ¬ StartsClause targets (front ++ rest) := by
  intro hstarts
  obtain ⟨more, hmore⟩ := hstarts.exists_cons
  cases front with
  | nil => exact hne rfl
  | cons x front =>
    obtain ⟨rfl, -⟩ := List.cons.inj hmore
    exact hfront List.mem_cons_self

/-- No clause with one of the targets starts in the text `front` when `rest` follows it. -/
def Quiet (targets : Set Text) (front rest : Text) : Prop :=
  ∀ v, v <:+ front → v ≠ [] → ¬ StartsClause targets (v ++ rest)

theorem quiet_of_not_mem {front : Text} (hfront : 'f' ∉ front) (rest : Text) :
    Quiet targets front rest :=
  fun _ hv hne => not_startsClause_of_not_mem (fun hmem => hfront (hv.subset hmem)) hne

theorem Quiet.of_cons {x : Char} {front rest : Text} (h : Quiet targets (x :: front) rest) :
    Quiet targets front rest :=
  fun v hv => h v (hv.trans (List.suffix_cons _ _))

theorem Quiet.cons {x : Char} {front rest : Text}
    (hnot : ¬ StartsClause targets (x :: front ++ rest)) (h : Quiet targets front rest) :
    Quiet targets (x :: front) rest := by
  intro v hv hne
  rcases List.suffix_cons_iff.1 hv with rfl | hv
  · exact hnot
  · exact h v hv hne

theorem Quiet.append {front mid rest : Text} (h : Quiet targets front (mid ++ rest))
    (hmid : Quiet targets mid rest) : Quiet targets (front ++ mid) rest := by
  induction front with
  | nil => exact hmid
  | cons x front ih =>
    have hnot := h (x :: front) (List.suffix_refl _) (by simp)
    rw [← List.append_assoc] at hnot
    exact .cons hnot (ih h.of_cons)

theorem startsClause_union_iff {s : Text} :
    StartsClause (targets ∪ targets') s ↔ StartsClause targets s ∨ StartsClause targets' s := by
  constructor
  · rintro ⟨c, hc, hstart⟩
    rcases hc.target with htarget | htarget
    · exact Or.inl ⟨c, ⟨hc.blanks_ne, hc.blanks, htarget⟩, hstart⟩
    · exact Or.inr ⟨c, ⟨hc.blanks_ne, hc.blanks, htarget⟩, hstart⟩
  · rintro (⟨c, hc, hstart⟩ | ⟨c, hc, hstart⟩)
    · exact ⟨c, hc.mono Set.subset_union_left, hstart⟩
    · exact ⟨c, hc.mono Set.subset_union_right, hstart⟩

theorem clauseCount_cons_of_not {x : Char} {rest : Text}
    (hnot : ¬ StartsClause targets (x :: rest)) :
    clauseCount targets (x :: rest) = clauseCount targets rest := by
  simp [clauseCount, hnot]

theorem clauseCount_cons {x : Char} {rest : Text} (hstarts : StartsClause targets (x :: rest)) :
    clauseCount targets (x :: rest) = clauseCount targets rest + 1 := by
  simp [clauseCount, hstarts]

theorem clauseCount_append {front : Text} (hfront : 'f' ∉ front) (rest : Text) :
    clauseCount targets (front ++ rest) = clauseCount targets rest := by
  induction front with
  | nil => rfl
  | cons x front ih =>
    have hnot : ¬ StartsClause targets (x :: (front ++ rest)) :=
      not_startsClause_of_not_mem hfront (by simp)
    rw [List.cons_append, clauseCount_cons_of_not hnot]
    exact ih fun hmem => hfront (List.mem_cons_of_mem _ hmem)

end Clauses

/-- What a shared target has to be, for its clauses to give the passes nothing to do. -/
structure Inert (targets : Set Text) (target : Text) : Prop where
  not_mem : target ∉ targets
  no_quote : ∀ q : Quote, q.char ∉ target
  no_from : ¬ ['f', 'r', 'o', 'm'] <:+: target

theorem Inert.mono {targets targets' : Set Text} {target : Text} (hsub : targets ⊆ targets')
    (h : Inert targets' target) : Inert targets target :=
  ⟨fun hmem => h.not_mem (hsub hmem), h.no_quote, h.no_from⟩

/-- No word `from` starts in an inert target, or ends in the quote after it. -/
theorem Inert.not_startsClause {targets : Set Text} {target u rest : Text} {q : Quote}
    (hinert : Inert targets target) (hu : u <:+ target) :
    ¬ StartsClause targets (u ++ q.char :: rest) := by
  intro hstarts
  obtain ⟨more, hmore⟩ := hstarts.exists_cons
  have hletters : q.char ∉ ['f', 'r', 'o', 'm'] := by
    cases q <;> decide
  have hstart : ['f', 'r', 'o', 'm'] <+: u := by
    have hsplit : u ++ q.char :: rest = ['f', 'r', 'o', 'm'] ++ more := hmore
    rcases List.append_eq_append_iff.1 hsplit with ⟨v, hv, hrest⟩ | ⟨v, hv, -⟩
    · cases v with
      | nil => exact ⟨[], by simpa using hv⟩
      | cons x v =>
        obtain ⟨rfl, -⟩ := List.cons.inj hrest
        exact absurd (hv ▸ List.mem_append_right _ List.mem_cons_self) hletters
    · exact ⟨v, hv.symm⟩
  exact hinert.no_from (hstart.isInfix.trans hu.isInfix)

/-- What is put in place of a clause is a clause with the shared target, and no other. -/
theorem Inert.not_startsClause_render {targets : Set Text} {target rest : Text} {q : Quote}
    (hinert : Inert targets target) (hquote : ∀ t ∈ targets, ∀ q : Quote, q.char ∉ t) :
    ¬ StartsClause targets (render target [q.char] ++ rest) := by
  rintro ⟨c, hc, after, hafter⟩
  have hshared : LooseClause.Of {target} ⟨[' '], q, target, q⟩ :=
    ⟨by simp, by simp [isBlank_space], rfl⟩
  have hsame : c.text ++ after = LooseClause.text ⟨[' '], q, target, q⟩ ++ rest := by
    rw [hafter]
    simp [render_eq, LooseClause.text]
  obtain ⟨rfl, -⟩ := eq_of_text_append hc hshared (hquote _ hc.target) hinert.no_quote hsame
  exact hinert.not_mem hc.target

/-- No clause starts in what is put in place of a clause. -/
theorem Inert.quiet_render {targets : Set Text} {target : Text} (hinert : Inert targets target)
    (hquote : ∀ t ∈ targets, ∀ q : Quote, q.char ∉ t) (q : Quote) (rest : Text) :
    Quiet targets (render target [q.char]) rest := by
  have hopening : 'f' ∉ ['r', 'o', 'm', ' ', q.char] := by
    cases q <;> decide
  have hclosing : 'f' ∉ [q.char] := by
    cases q <;> decide
  have hwhole : render target [q.char] =
      'f' :: (['r', 'o', 'm', ' ', q.char] ++ (target ++ [q.char])) := by
    simp [render_eq]
  have htarget : Quiet targets target ([q.char] ++ rest) :=
    fun v hv _ => hinert.not_startsClause hv
  have hstart : ¬ StartsClause targets (render target [q.char] ++ rest) :=
    hinert.not_startsClause_render hquote
  rw [hwhole] at hstart ⊢
  exact .cons hstart ((quiet_of_not_mem hopening _).append
    (htarget.append (quiet_of_not_mem hclosing rest)))

namespace Pass
variable {targets targets' : Set Text} {target s t u : Text} {n m : Nat}

theorem of_text_append (hquote : ∀ t ∈ targets, ∀ q : Quote, q.char ∉ t) {c : LooseClause}
    (hc : c.Of targets) {rest out : Text} (h : Pass targets target (c.text ++ rest) out n) :
    ∃ after m, out = render target [c.opening.char] ++ after ∧ n = m + 1 ∧
      Pass targets target rest after m := by
  generalize hs : c.text ++ rest = s at h
  cases h with
  | done => cases hs
  | replace hd h =>
    obtain ⟨rfl, rfl⟩ := eq_of_text_append hc hd (hquote _ hc.target) (hquote _ hd.target) hs
    exact ⟨_, _, rfl, rfl, h⟩
  | keep hnot h => exact absurd (hs ▸ startsClause_text_append hc rest) hnot

theorem of_cons {x : Char} {rest out : Text} (hnot : ¬ StartsClause targets (x :: rest))
    (h : Pass targets target (x :: rest) out n) :
    ∃ after, out = x :: after ∧ Pass targets target rest after n := by
  generalize hs : x :: rest = s at h
  cases h with
  | done => cases hs
  | replace hc h => exact absurd (hs ▸ startsClause_text_append hc _) hnot
  | keep _ h =>
    cases hs
    exact ⟨_, rfl, h⟩

/-- A pass gives one text and one number. -/
theorem unique (hquote : ∀ t ∈ targets, ∀ q : Quote, q.char ∉ t) {out out' : Text}
    (h : Pass targets target s out n) (h' : Pass targets target s out' m) :
    out = out' ∧ n = m := by
  induction h generalizing out' m with
  | done =>
    generalize hs : ([] : Text) = s at h'
    cases h' with
    | done => exact ⟨rfl, rfl⟩
    | replace _ _ => cases hs
    | keep _ _ => cases hs
  | replace hc _ ih =>
    obtain ⟨after, k, rfl, rfl, hafter⟩ := of_text_append hquote hc h'
    obtain ⟨rfl, rfl⟩ := ih hafter
    exact ⟨rfl, rfl⟩
  | keep hnot _ ih =>
    obtain ⟨after, rfl, hafter⟩ := of_cons hnot h'
    obtain ⟨rfl, rfl⟩ := ih hafter
    exact ⟨rfl, rfl⟩

/-- A beginning in which no clause starts stays. -/
theorem of_append {front rest out : Text} (hfront : Quiet targets front rest)
    (h : Pass targets target (front ++ rest) out n) :
    ∃ after, out = front ++ after ∧ Pass targets target rest after n := by
  induction front generalizing out with
  | nil => exact ⟨out, rfl, h⟩
  | cons x front ih =>
    obtain ⟨after, rfl, hafter⟩ := of_cons (hfront _ (List.suffix_refl _) (by simp)) h
    obtain ⟨last, rfl, hlast⟩ := ih hfront.of_cons hafter
    exact ⟨last, rfl, hlast⟩

theorem of_append_of_not_mem {front rest out : Text} (hfront : 'f' ∉ front)
    (h : Pass targets target (front ++ rest) out n) :
    ∃ after, out = front ++ after ∧ Pass targets target rest after n :=
  h.of_append (quiet_of_not_mem hfront rest)

theorem append_left_of_quiet {front rest out : Text} (hfront : Quiet targets front rest)
    (h : Pass targets target rest out n) :
    Pass targets target (front ++ rest) (front ++ out) n := by
  induction front with
  | nil => exact h
  | cons x front ih =>
    have hnot := hfront _ (List.suffix_refl _) (by simp)
    exact keep hnot (ih hfront.of_cons)

theorem append_left {front rest out : Text} (hfront : 'f' ∉ front)
    (h : Pass targets target rest out n) :
    Pass targets target (front ++ rest) (front ++ out) n :=
  h.append_left_of_quiet (quiet_of_not_mem hfront rest)

/-- A beginning of the output without the letter `f` is the beginning of the input. -/
theorem of_append_output {front out : Text} (hfront : 'f' ∉ front)
    (h : Pass targets target s (front ++ out) n) :
    ∃ rest, s = front ++ rest ∧ Pass targets target rest out n := by
  induction front generalizing s with
  | nil => exact ⟨s, rfl, h⟩
  | cons x front ih =>
    generalize hout : x :: front ++ out = whole at h
    cases h with
    | done => cases hout
    | replace _ _ =>
      rw [render_eq] at hout
      obtain ⟨rfl, -⟩ := List.cons.inj hout
      exact absurd List.mem_cons_self hfront
    | keep _ h =>
      cases hout
      obtain ⟨rest, rfl, hrest⟩ := ih (fun hmem => hfront (List.mem_cons_of_mem _ hmem)) h
      exact ⟨rest, rfl, hrest⟩

/-- A clause starts at a character that was kept exactly if it started there before. -/
theorem text_prefix_cons_iff (happart : Apart targets') {c : LooseClause} (hc : c.Of targets')
    {out : Text} (h : Pass targets target s out n) (x : Char) :
    c.text <+: x :: out ↔ c.text <+: x :: s := by
  obtain ⟨tail, htext, htail⟩ := text_eq_cons happart hc
  rw [htext, List.cons_prefix_cons, List.cons_prefix_cons]
  refine and_congr_right fun _ => ?_
  constructor
  · rintro ⟨last, rfl⟩
    obtain ⟨more, rfl, -⟩ := of_append_output htail h
    exact List.prefix_append tail more
  · rintro ⟨more, rfl⟩
    obtain ⟨last, rfl, -⟩ := of_append_of_not_mem htail h
    exact List.prefix_append tail last

/-- A pass after another is a single pass for the targets of both. -/
theorem trans (happart : Apart targets')
    (hinert : Inert targets' target) (h : Pass targets target s t n)
    (h' : Pass targets' target t u m) : Pass (targets ∪ targets') target s u (n + m) := by
  induction h generalizing u m with
  | done =>
    obtain ⟨rfl, rfl⟩ := unique happart.no_quote h' done
    exact done
  | replace hc _ ih =>
    obtain ⟨after, rfl, hafter⟩ := of_append (hinert.quiet_render happart.no_quote _ _) h'
    rw [Nat.add_right_comm]
    exact replace (hc.mono Set.subset_union_left) (ih hafter)
  | @keep x rest out n hnot hrest ih =>
    by_cases hstarts : StartsClause targets' (x :: out)
    · -- the clause lies in a part of the text that the first pass has kept
      obtain ⟨c, hc, last, hlast⟩ := hstarts
      obtain ⟨tail, htext, htail⟩ := text_eq_cons happart hc
      rw [htext, List.cons_append] at hlast
      obtain ⟨rfl, rfl⟩ := List.cons.inj hlast
      obtain ⟨more, rfl, -⟩ := of_append_output htail hrest
      rw [← List.cons_append, ← htext] at h' ⊢
      obtain ⟨after, k, rfl, rfl, hafter⟩ := of_text_append happart.no_quote hc h'
      obtain ⟨last', heq, hlast'⟩ := of_append_of_not_mem htail (ih (hafter.append_left htail))
      cases List.append_cancel_left heq
      exact replace (hc.mono Set.subset_union_right) hlast'
    · obtain ⟨after, rfl, hafter⟩ := of_cons hstarts h'
      refine keep ?_ (ih hafter)
      rw [startsClause_union_iff]
      rintro (hstarts' | ⟨c, hc, hstart⟩)
      · exact hnot hstarts'
      · exact hstarts ⟨c, hc, (hrest.text_prefix_cons_iff happart hc x).2 hstart⟩

theorem refl_empty (target s : Text) : Pass ∅ target s s 0 := by
  induction s with
  | nil => exact done
  | cons x rest ih => exact keep (fun ⟨_, hc, _⟩ => hc.target) ih

theorem eq_of_zero {out : Text} (h : Pass targets target s out 0) : out = s := by
  generalize hn : 0 = n at h
  induction h with
  | done => rfl
  | replace _ _ _ => cases hn
  | keep _ _ ih => rw [ih hn]

/-- The number of a pass is the number of places at which a clause starts. -/
theorem eq_clauseCount (happart : Apart targets) {out : Text}
    (h : Pass targets target s out n) : n = clauseCount targets s := by
  induction h with
  | done =>
    have hnot : ¬ StartsClause targets [] := by
      intro hstarts
      obtain ⟨_, hcons⟩ := hstarts.exists_cons
      cases hcons
    simp [clauseCount, hnot]
  | @replace c rest _ _ hc _ ih =>
    have hstarts := startsClause_text_append hc rest
    obtain ⟨tail, htext, htail⟩ := text_eq_cons happart hc
    rw [htext, List.cons_append] at hstarts ⊢
    rw [clauseCount_cons hstarts, clauseCount_append htail, ih]
  | keep hnot _ ih => rw [clauseCount_cons_of_not hnot, ih]

end Pass

/-- Where a kind recognises nothing, none of its clauses starts. -/
theorem not_startsClause_of_recognise {l : Legacy} {s : Text} (hnone : l.recognise s = none) :
    ¬ StartsClause l.targets s := by
  rintro ⟨c, hc, after, hafter⟩
  have hsome := Legacy.recognise_eq_some_iff.2 ⟨c, hc, ⟨after, hafter.symm⟩, rfl, rfl⟩
  rw [hnone] at hsome
  cases hsome

/-- The finder of one legacy kind makes a pass for its targets. -/
theorem pass_pieces (target : Text) (l : Legacy) (s : Text) :
    Pass l.targets target s (((Finder.legacy l).pieces s).flatMap (Piece.text (render target)))
      (((Finder.legacy l).pieces s).filterMap Piece.found?).length := by
  rw [Finder.pieces]
  induction s using scan_induction l.advances_recognise with
  | nil => exact Pass.done
  | plain x rest hnone ih => exact Pass.keep (not_startsClause_of_recognise hnone) ih
  | found s q n hr ih =>
    obtain ⟨c, hc, ⟨rest, rfl⟩, rfl, rfl⟩ := Legacy.recognise_eq_some_iff.1 hr
    rw [List.drop_left] at ih ⊢
    exact Pass.replace hc ih

section Counts
variable {target s : Text}

theorem replaceAll_eq_none_iff {f : Finder} :
    (replaceAll target f s).1 = none ↔ (replaceAll target f s).2 = 0 := by
  dsimp only [replaceAll]
  split
  · simp
  · rename_i hne
    simpa using hne

/-- Nothing is put in where nothing is counted. -/
theorem replaceEach_eq_none {finders : List Finder} (h : (replaceEach target finders s).2 = 0) :
    (replaceEach target finders s).1 = none := by
  induction finders with
  | nil => rfl
  | cons f finders ih =>
    rw [replaceEach] at h ⊢
    split
    · rename_i hnone
      rw [hnone] at h
      exact ih h
    · rename_i next n hsome
      rw [hsome] at h
      have hcount : (replaceAll target f s).2 = 0 := by
        rw [hsome]
        exact (Nat.add_eq_zero_iff.1 h).1
      have hfound := replaceAll_eq_none_iff.2 hcount
      rw [hsome] at hfound
      cases hfound

end Counts

theorem pass_replaceAll (target : Text) (l : Legacy) (s : Text) :
    Pass l.targets target s ((replaceAll target (.legacy l) s).1.getD s)
      (replaceAll target (.legacy l) s).2 := by
  have hpass := pass_pieces target l s
  dsimp only [replaceAll]
  split
  · rename_i hzero
    rw [hzero] at hpass
    rw [hpass.eq_of_zero] at hpass
    exact hpass
  · exact hpass

theorem pass_replaceEach {target : Text} {ls : List Legacy}
    (hinert : Inert (Legacy.targetsOf ls) target) (s : Text) :
    Pass (Legacy.targetsOf ls) target s
      ((replaceEach target (ls.map .legacy) s).1.getD s)
      (replaceEach target (ls.map .legacy) s).2 := by
  induction ls generalizing s with
  | nil =>
    rw [Legacy.targetsOf_nil]
    exact Pass.refl_empty target s
  | cons l ls ih =>
    rw [Legacy.targetsOf_cons] at hinert ⊢
    have hrest := hinert.mono Set.subset_union_right
    have hfirst := pass_replaceAll target l s
    rw [List.map_cons, replaceEach]
    split
    · rename_i n hn
      have hnone : (replaceAll target (.legacy l) s).1 = none := by rw [hn]
      rw [hnone, replaceAll_eq_none_iff.1 hnone, Option.getD_none] at hfirst
      simpa using hfirst.trans (Legacy.apart_targetsOf ls) hrest (ih hrest s)
    · rename_i next n hn
      rw [hn, Option.getD_some] at hfirst
      exact hfirst.trans (Legacy.apart_targetsOf ls) hrest (ih hrest next)

/-- Redirecting the legacy kinds one after the other, in any order, is a single pass over the text
for all of their targets, and counts each clause with such a target once. -/
theorem apply_legacy_iff_pass (ls : List Legacy) (target given : Text)
    (hls : ls.Perm Legacy.all) (htarget : target ∉ Legacy.targetsOf Legacy.all)
    (hquote : ∀ q : Quote, q.char ∉ target) (hfrom : ¬ "from".toList <:+: target) :
    let made := Redirect.apply { finders := ls.map .legacy, target } given
    (∀ out n, Pass (Legacy.targetsOf Legacy.all) target given out n ↔
      out = made.result given ∧ n = made.count) ∧
      made.count = clauseCount (Legacy.targetsOf Legacy.all) given := by
  intro made
  have hsame : Legacy.targetsOf ls = Legacy.targetsOf Legacy.all := by
    ext t
    simp only [Legacy.targetsOf, hls.mem_iff]
  have hpass : Pass (Legacy.targetsOf Legacy.all) target given (made.result given) made.count := by
    rw [← hsame] at htarget ⊢
    exact pass_replaceEach ⟨htarget, hquote, hfrom⟩ given
  have happart := Legacy.apart_targetsOf Legacy.all
  refine ⟨?_, hpass.eq_clauseCount happart⟩
  intro out n
  constructor
  · intro h
    exact h.unique happart.no_quote hpass
  · rintro ⟨rfl, rfl⟩
    exact hpass

theorem shared_not_mem_targetsOf : "@tgt/shared".toList ∉ Legacy.targetsOf Legacy.all := by
  rintro ⟨l, -, ht⟩
  exact absurd (Legacy.mem_alphabet ht 'g' (by decide)) (by decide)

/-- Two clauses side by side, the first with an odd pair of quotes, for kinds in reverse order. -/
theorem pass_shared_reverse :
    Pass (Legacy.targetsOf Legacy.all) "@tgt/shared".toList
        "from\n'./../types\"from  \"@/lib/supabase\"; from '@/typesfrom'".toList
        "from '@tgt/shared'from \"@tgt/shared\"; from '@/typesfrom'".toList 2 ∧
      clauseCount (Legacy.targetsOf Legacy.all)
        "from\n'./../types\"from  \"@/lib/supabase\"; from '@/typesfrom'".toList = 2 := by
  have hmade := apply_legacy_iff_pass Legacy.all.reverse "@tgt/shared".toList
    "from\n'./../types\"from  \"@/lib/supabase\"; from '@/typesfrom'".toList
    (List.reverse_perm _) shared_not_mem_targetsOf (by rintro (_ | _) <;> decide) (by decide)
  refine ⟨(hmade.1 _ _).2 ⟨?_, ?_⟩, hmade.2.symm.trans ?_⟩ <;> decide +kernel

end Redirect

end ImportAlias
