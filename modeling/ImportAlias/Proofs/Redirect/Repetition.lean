import ImportAlias.Proofs.Redirect.Simultaneous

/-!
# Redirecting what is redirected changes nothing

A text is settled for some targets if a pass for them gives it back. The clauses that the pass finds
in it are then the shared ones already, which may well be, as the shared target can be a legacy
target itself. What is put in place of a clause holds no start of another, so that a pass settles a
text for its own targets and leaves it settled for those of the passes before.
-/
namespace ImportAlias

namespace Redirect
open LooseClause

/-- A pass gives the text back. -/
def Settled (targets : Set Text) (target s : Text) : Prop := ∃ n, Pass targets target s s n

/-- The shared target neither ends its own clause nor starts another. -/
structure Closed (target : Text) : Prop where
  no_quote : ∀ q : Quote, q.char ∉ target
  no_from : ¬ ['f', 'r', 'o', 'm'] <:+: target

namespace Settled
variable {targets targets' : Set Text} {target s t rest : Text} {n : Nat}

/-- The clause that is put in place of others. -/
def shared (target : Text) (q : Quote) : LooseClause := ⟨[' '], q, target, q⟩

theorem text_shared (target : Text) (q : Quote) :
    (shared target q).text = render target [q.char] := by
  simp [shared, LooseClause.text, render_eq]

theorem shared_of {q : Quote} (h : target ∈ targets) : (shared target q).Of targets :=
  ⟨by simp [shared], by simp [shared, isBlank_space], h⟩

/-- A clause in a settled text is the shared one. -/
theorem of_text_append (hclosed : Closed target) (hquote : ∀ t ∈ targets, ∀ q : Quote, q.char ∉ t)
    {c : LooseClause} (hc : c.Of targets) (h : Settled targets target (c.text ++ rest)) :
    c.text = render target [c.opening.char] ∧ Settled targets target rest := by
  obtain ⟨n, hpass⟩ := h
  obtain ⟨after, m, hsame, -, hafter⟩ := hpass.of_text_append hquote hc
  rw [← text_shared] at hsame
  have hshared : (shared target c.opening).Of {target} := shared_of rfl
  obtain ⟨hclause, rfl⟩ :=
    eq_of_text_append hc hshared (hquote _ hc.target) hclosed.no_quote hsame
  refine ⟨?_, m, hafter⟩
  rw [← text_shared, ← hclause]

/-- What follows in a settled text is settled. -/
theorem of_cons (hclosed : Closed target) (happart : Apart targets) {x : Char}
    (h : Settled targets target (x :: rest)) : Settled targets target rest := by
  by_cases hstarts : StartsClause targets (x :: rest)
  · obtain ⟨c, hc, last, hlast⟩ := hstarts
    rw [← hlast] at h
    obtain ⟨-, n, hpass⟩ := h.of_text_append hclosed happart.no_quote hc
    obtain ⟨tail, htext, htail⟩ := text_eq_cons happart hc
    rw [htext, List.cons_append] at hlast
    obtain ⟨-, rfl⟩ := List.cons.inj hlast
    exact ⟨n, hpass.append_left htail⟩
  · obtain ⟨n, hpass⟩ := h
    obtain ⟨after, hsame, hafter⟩ := hpass.of_cons hstarts
    cases hsame
    exact ⟨n, hafter⟩

theorem of_append (hclosed : Closed target) (happart : Apart targets) {front : Text}
    (h : Settled targets target (front ++ rest)) : Settled targets target rest := by
  induction front with
  | nil => exact h
  | cons x front ih => exact ih (h.of_cons hclosed happart)

/-- A shared clause in front of a settled text leaves it settled. -/
theorem render_append (hclosed : Closed target) (happart : Apart targets) (q : Quote)
    (h : Settled targets target rest) :
    Settled targets target (render target [q.char] ++ rest) := by
  obtain ⟨n, hpass⟩ := h
  by_cases hmem : target ∈ targets
  · have hreplace := Pass.replace (shared_of (q := q) hmem) hpass
    rw [text_shared] at hreplace
    exact ⟨n + 1, hreplace⟩
  · have hinert : Inert targets target := ⟨hmem, hclosed.no_quote, hclosed.no_from⟩
    exact ⟨n, hpass.append_left_of_quiet (hinert.quiet_render happart.no_quote q rest)⟩

/-- A pass settles a text for its own targets, and keeps it settled for others. -/
theorem pass (hclosed : Closed target) (happart : Apart (targets ∪ targets'))
    (h : Pass targets target s t n) (hs : Settled targets' target s) :
    Settled (targets ∪ targets') target t := by
  have happart' : Apart targets' := happart.mono Set.subset_union_right
  induction h with
  | done => exact ⟨0, .done⟩
  | replace _ _ ih => exact (ih (hs.of_append hclosed happart')).render_append hclosed happart _
  | @keep x rest out n hnot hrest ih =>
    have hout := ih (hs.of_cons hclosed happart')
    by_cases hstarts : StartsClause (targets ∪ targets') (x :: out)
    · -- the clause lies in what the pass has kept, and was settled there
      obtain ⟨c, hc, last, hlast⟩ := hstarts
      obtain ⟨tail, htext, htail⟩ := text_eq_cons happart hc
      rw [htext, List.cons_append] at hlast
      obtain ⟨rfl, rfl⟩ := List.cons.inj hlast
      obtain ⟨more, rfl, -⟩ := hrest.of_append_output htail
      rw [← List.cons_append, ← htext] at hs hnot ⊢
      rcases hc.target with htarget | htarget
      · have hc' : c.Of targets := ⟨hc.blanks_ne, hc.blanks, htarget⟩
        exact absurd (startsClause_text_append hc' more) hnot
      · have hc' : c.Of targets' := ⟨hc.blanks_ne, hc.blanks, htarget⟩
        obtain ⟨hshared, -⟩ := hs.of_text_append hclosed happart'.no_quote hc'
        rw [hshared]
        exact (hout.of_append hclosed happart).render_append hclosed happart _
    · obtain ⟨m, hpass⟩ := hout
      exact ⟨m, .keep hstarts hpass⟩

/-- A pass for some of the targets gives a settled text back. -/
theorem eq_of_pass (hclosed : Closed target) (happart : Apart targets') (hsub : targets ⊆ targets')
    (hs : Settled targets' target s) (h : Pass targets target s t n) : t = s := by
  induction h with
  | done => rfl
  | @replace c rest out n hc _ ih =>
    have hc' : c.Of targets' := ⟨hc.blanks_ne, hc.blanks, hsub hc.target⟩
    obtain ⟨hshared, hrest⟩ := hs.of_text_append hclosed happart.no_quote hc'
    rw [ih hrest, hshared]
  | keep _ _ ih => rw [ih (hs.of_cons hclosed happart)]

end Settled

section Kinds
variable {targets : Set Text} {target s : Text} {ls : List Legacy}

/-- Redirecting the kinds one after the other settles the text for all of them. -/
theorem Settled.replaceEach (hclosed : Closed target)
    (happart : Apart (Legacy.targetsOf ls ∪ targets)) (hs : Settled targets target s) :
    Settled (Legacy.targetsOf ls ∪ targets) target
      ((replaceEach target (ls.map .legacy) s).1.getD s) := by
  induction ls generalizing s targets with
  | nil =>
    rw [Legacy.targetsOf_nil, Set.empty_union]
    exact hs
  | cons l ls ih =>
    have hunion : Legacy.targetsOf (l :: ls) ∪ targets =
        Legacy.targetsOf ls ∪ (l.targets ∪ targets) := by
      rw [Legacy.targetsOf_cons, Set.union_assoc, Set.union_left_comm]
    rw [hunion] at happart ⊢
    have hfirst := Settled.pass hclosed (happart.mono Set.subset_union_right)
      (pass_replaceAll target l s) hs
    rw [List.map_cons, Redirect.replaceEach]
    split
    · rename_i n hn
      rw [hn, Option.getD_none] at hfirst
      exact ih happart hfirst
    · rename_i next n hn
      rw [hn, Option.getD_some] at hfirst
      exact ih happart hfirst

theorem Settled.replaceEach_eq (hclosed : Closed target) (happart : Apart targets)
    (hsub : Legacy.targetsOf ls ⊆ targets) (hs : Settled targets target s) :
    (Redirect.replaceEach target (ls.map .legacy) s).1.getD s = s := by
  induction ls with
  | nil => rfl
  | cons l ls ih =>
    rw [Legacy.targetsOf_cons, Set.union_subset_iff] at hsub
    have hfirst := hs.eq_of_pass hclosed happart hsub.1 (pass_replaceAll target l s)
    rw [List.map_cons, Redirect.replaceEach]
    split
    · exact ih hsub.2
    · rename_i next n hn
      rw [hn, Option.getD_some] at hfirst
      subst hfirst
      exact ih hsub.2

theorem result_apply_eq (ls : List Legacy) (target given : Text) :
    (Redirect.apply { finders := ls.map .legacy, target } given).result given =
      (replaceEach target (ls.map .legacy) given).1.getD given := rfl

/-- Redirecting a text that has been redirected gives it back. -/
theorem result_apply_legacy (hclosed : Closed target) (given : Text) :
    let once := ((legacy target).apply given).result given
    ((legacy target).apply once).result once = once := by
  intro once
  have happart : Apart (Legacy.targetsOf Legacy.all ∪ ∅) := by
    rw [Set.union_empty]
    exact Legacy.apart_targetsOf Legacy.all
  have hempty : Settled ∅ target given := ⟨0, Pass.refl_empty target given⟩
  have hsettled := hempty.replaceEach hclosed happart
  rw [← result_apply_eq] at hsettled
  have hagain := hsettled.replaceEach_eq hclosed happart Set.subset_union_left
  rw [← result_apply_eq] at hagain
  exact hagain

end Kinds

end Redirect

end ImportAlias
