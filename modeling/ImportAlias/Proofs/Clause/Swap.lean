import ImportAlias.Clause.Substitution
import ImportAlias.Proofs.Clause.Reading

/-!
# A text beside what a pass makes of it

A pass over a text puts new targets into some of its clauses. Suppose that each new target can
stand between the quotes around it and brings no quote that the old one did not hold. A literal that
is left open in the text then meets a closing quote after the pass only if it met one before, or if
its line ended in the blanks of a replaced clause (`Judged.closed_source_or_losesBreak`). So no
clause starts in the new text where none started in the old one, unless a literal was left open
before a line break that the pass takes out (`Judged.OpensIn`).
-/
namespace ImportAlias

namespace Judged

/-- The clause that stands in the new text. -/
def outcome (j : Judged) : Clause :=
  match j.verdict with
  | .replace new =>
    { blanks := [' '], literal := { quote := j.clause.literal.quote, target := new } }
  | _ => j.clause

/-- A new target is fit for its clause: it can be read back, and it holds a quote only if the old
target held that quote. -/
structure Fits (old : Literal) (new : Text) : Prop where
  ne_nil : new ≠ []
  inTarget : ∀ x ∈ new, Clause.inTarget old.quote.char x = true
  quotes : ∀ q : Quote, q.char ∈ new → q.char ∈ old.target

/-- A well-formed clause whose new target, if it gets one, is fit for it. -/
structure Fitting (j : Judged) : Prop where
  valid : j.clause.Valid
  fits : ∀ new, j.verdict = .replace new → Fits j.clause.literal new

/-- The clause is replaced, and a line break between `from` and its quote is gone with it. -/
def LosesBreak (j : Judged) : Prop := j.isReplaced = true ∧ '\n' ∈ j.clause.blanks

theorem text_eq_outcome_text (j : Judged) : j.text = j.outcome.text := by
  obtain ⟨c, verdict⟩ := j
  cases verdict with
  | keep => rfl
  | skip => rfl
  | replace new => simp [text, outcome, Literal.render, Clause.text, Literal.text]

theorem Fitting.outcome_valid {j : Judged} (hj : j.Fitting) : j.outcome.Valid := by
  obtain ⟨c, verdict⟩ := j
  cases verdict with
  | keep => exact hj.valid
  | skip => exact hj.valid
  | replace new =>
    have hfits := hj.fits new rfl
    refine ⟨by simp [outcome], ?_, hfits.ne_nil, hfits.inTarget⟩
    intro b hb
    rw [List.mem_singleton.1 hb]
    exact isBlank_space

/-- A clause that is not replaced stands in the new text as it is. -/
theorem text_eq_or_replace (j : Judged) :
    j.isReplaced = false ∧ j.text = j.clause.text ∨
      ∃ new, j.verdict = .replace new ∧ j.isReplaced = true ∧
        j.text = j.clause.literal.render new := by
  obtain ⟨c, verdict⟩ := j
  cases verdict with
  | keep => exact Or.inl ⟨rfl, rfl⟩
  | skip => exact Or.inl ⟨rfl, rfl⟩
  | replace new => exact Or.inr ⟨new, rfl, rfl, rfl⟩

/-- A clause starts with the letter `f`, replaced or not. -/
theorem exists_text_eq_cons (j : Judged) : ∃ rest, j.text = 'f' :: rest := by
  rw [text_eq_outcome_text, Clause.text_eq_cons]
  exact ⟨_, rfl⟩

/-- The text that judged pieces make. -/
def joined (pieces : List (Piece Judged)) : Text := pieces.flatMap (Piece.text text)

@[simp] theorem joined_plain (c : Char) (pieces : List (Piece Judged)) :
    joined (.plain c :: pieces) = c :: joined pieces := rfl

@[simp] theorem joined_found (j : Judged) (pieces : List (Piece Judged)) :
    joined (.found j :: pieces) = j.text ++ joined pieces := rfl

/-- The text that judged pieces were found in. -/
def source (pieces : List (Piece Judged)) : Text :=
  pieces.flatMap (Piece.text fun j => j.clause.text)

@[simp] theorem source_plain (c : Char) (pieces : List (Piece Judged)) :
    source (.plain c :: pieces) = c :: source pieces := rfl

@[simp] theorem source_found (j : Judged) (pieces : List (Piece Judged)) :
    source (.found j :: pieces) = j.clause.text ++ source pieces := rfl

@[simp] theorem source_append (pieces more : List (Piece Judged)) :
    source (pieces ++ more) = source pieces ++ source more := List.flatMap_append

theorem source_map_plain (u : Text) : source (u.map .plain) = u := by
  induction u with
  | nil => rfl
  | cons c u ih => rw [List.map_cons, source_plain, ih]

/-- The text is that of the clauses before they were judged. -/
theorem source_eq (pieces : List (Piece Judged)) :
    source pieces = (pieces.map (Piece.map clause)).flatMap (Piece.text Clause.text) := by
  rw [source, List.flatMap_map]
  congr 1
  funext piece
  cases piece <;> rfl

end Judged

/-- A text that goes on within a line up to the quote `q`. -/
def Closed (q : Quote) (s : Text) : Prop :=
  ∃ target rest, s = target ++ q.char :: rest ∧
    ∀ x ∈ target, Clause.inTarget q.char x = true

namespace Closed
open Clause

theorem append_left {q : Quote} {s : Text} (u : Text)
    (hu : ∀ x ∈ u, inTarget q.char x = true) (h : Closed q s) : Closed q (u ++ s) := by
  obtain ⟨target, rest, rfl, htarget⟩ := h
  refine ⟨u ++ target, rest, by rw [List.append_assoc], ?_⟩
  intro x hx
  rcases List.mem_append.1 hx with hx | hx
  · exact hu x hx
  · exact htarget x hx

/-- A text is closed within its beginning, or the line goes on behind that up to the quote. -/
theorem of_append {q : Quote} {u s : Text} (h : Closed q (u ++ s)) :
    (∀ s', Closed q (u ++ s')) ∨ q.char ∉ u ∧ '\n' ∉ u ∧ Closed q s := by
  induction u with
  | nil => exact Or.inr ⟨by simp, by simp, h⟩
  | cons c u ih =>
    obtain ⟨target, rest, hs, htarget⟩ := h
    cases target with
    | nil =>
      obtain ⟨rfl, -⟩ := List.cons.inj hs
      exact Or.inl fun s' => ⟨[], u ++ s', rfl, by simp⟩
    | cons d target =>
      obtain ⟨rfl, htail⟩ := List.cons.inj hs
      obtain ⟨hc, hrest⟩ := List.forall_mem_cons.1 htarget
      rcases ih ⟨target, rest, htail, hrest⟩ with hclosed | ⟨hquote, hbreak, hclosed⟩
      · exact Or.inl fun s' => (hclosed s').append_left [c] (by simpa using hc)
      · obtain ⟨hne, hline⟩ := inTarget_iff.1 hc
        exact Or.inr ⟨by simp [Ne.symm hne, hquote], by simp [Ne.symm hline, hbreak], hclosed⟩

/-- The first quote closes the text, if no line break comes before it. -/
theorem of_mem {q : Quote} {u : Text} (hq : q.char ∈ u) (hbreak : '\n' ∉ u) (s : Text) :
    Closed q (u ++ s) := by
  induction u with
  | nil => cases hq
  | cons c u ih =>
    by_cases hc : c = q.char
    · subst hc
      exact ⟨[], u ++ s, rfl, by simp⟩
    · have hin : ∀ x ∈ [c], inTarget q.char x = true := by
        intro x hx
        rw [List.mem_singleton.1 hx]
        exact inTarget_iff.2 ⟨hc, fun h => hbreak (h ▸ List.mem_cons_self)⟩
      have hmem : q.char ∈ u := (List.mem_cons.1 hq).resolve_left (Ne.symm hc)
      exact append_left [c] hin (ih hmem fun h => hbreak (List.mem_cons_of_mem c h))

theorem mem {q : Quote} {s : Text} (h : Closed q s) : q.char ∈ s := by
  obtain ⟨target, rest, rfl, -⟩ := h
  simp

end Closed

namespace Clause

theorem newline_not_mem_text {c : Clause} (hc : c.Valid) (hbreak : '\n' ∉ c.blanks) :
    '\n' ∉ c.text := by
  have htarget : '\n' ∉ c.literal.target := fun h => (inTarget_iff.1 (hc.target _ h)).2 rfl
  have hquote := Quote.char_ne_newline c.literal.quote
  simp [text, Literal.text, hbreak, htarget, Ne.symm hquote]

/-- A quote that is in none of the old clause is in none of the new one. -/
theorem quote_not_mem_render {q : Quote} {c : Clause} {new : Text}
    (hfits : Judged.Fits c.literal new) (hq : q.char ∉ c.text) :
    q.char ∉ c.literal.render new := by
  have hnew : q.char ∉ new := by
    intro h
    exact hq (by simp [text, Literal.text, hfits.quotes q h])
  have hown : q.char ≠ c.literal.quote.char := by
    intro h
    exact hq (by simp [text, Literal.text, h])
  have hword : q.char ∉ ['f', 'r', 'o', 'm', ' '] := by cases q <;> decide
  simp only [Literal.render, List.mem_append, List.mem_cons, List.not_mem_nil, or_false] at hword ⊢
  grind

end Clause

/-- At the end of the text a literal is open: its quote has come after `from` and blanks, and since
then neither the quote again nor a line break. -/
def EndsOpen (q : Quote) (s : Text) : Prop :=
  ∃ before blanks line, s = before ++ (['f', 'r', 'o', 'm'] ++ blanks ++ q.char :: line) ∧
    blanks ≠ [] ∧ (∀ b ∈ blanks, isBlank b = true) ∧ q.char ∉ line ∧ '\n' ∉ line

theorem EndsOpen.append_left {q : Quote} {s : Text} (u : Text) (h : EndsOpen q s) :
    EndsOpen q (u ++ s) := by
  obtain ⟨before, blanks, line, rfl, hrest⟩ := h
  exact ⟨u ++ before, blanks, line, (List.append_assoc ..).symm, hrest⟩

namespace Judged
open Clause

/-- Within the line, before the quote `q` comes, a clause loses a line break. -/
def LosesBreakBefore (q : Quote) (pieces : List (Piece Judged)) : Prop :=
  ∃ before j after, pieces = before ++ .found j :: after ∧ j.LosesBreak ∧
    q.char ∉ source before ∧ '\n' ∉ source before

/-- A literal is left open before a clause that loses a line break, and its quote comes again. -/
def OpensIn (pieces : List (Piece Judged)) : Prop :=
  ∃ q before j after, pieces = before ++ .found j :: after ∧ j.LosesBreak ∧
    EndsOpen q (source before) ∧ q.char ∈ j.clause.text ++ source after

section Pieces
variable {pieces : List (Piece Judged)} {q : Quote}

theorem OpensIn.cons (h : OpensIn pieces) (piece : Piece Judged) : OpensIn (piece :: pieces) := by
  obtain ⟨q, before, j, after, rfl, hloses, hopen, hq⟩ := h
  exact ⟨q, piece :: before, j, after, rfl, hloses, hopen.append_left _, hq⟩

/-- In the new text, too, a clause starts with the letter `f`. -/
theorem exists_plain_of_joined {c : Char} {s : Text} (hc : c ≠ 'f') (h : joined pieces = c :: s) :
    ∃ more, pieces = .plain c :: more ∧ joined more = s := by
  cases pieces with
  | nil => cases h
  | cons piece more =>
    cases piece with
    | plain d =>
      obtain ⟨rfl, hs⟩ := List.cons.inj h
      exact ⟨more, rfl, hs⟩
    | found j =>
      obtain ⟨rest, hrest⟩ := j.exists_text_eq_cons
      rw [joined_found, hrest] at h
      exact absurd (List.cons.inj h).1.symm hc

theorem exists_plains_of_joined {u s : Text} (hu : ∀ c ∈ u, c ≠ 'f') (h : joined pieces = u ++ s) :
    ∃ more, pieces = u.map .plain ++ more ∧ joined more = s := by
  induction u generalizing pieces with
  | nil => exact ⟨pieces, rfl, h⟩
  | cons c u ih =>
    obtain ⟨hc, hrest⟩ := List.forall_mem_cons.1 hu
    obtain ⟨more, rfl, hmore⟩ := exists_plain_of_joined hc h
    obtain ⟨after, rfl, hafter⟩ := ih hrest hmore
    exact ⟨after, rfl, hafter⟩

/-- A quote at the start of the old text is there in the new one. -/
theorem head?_joined_of_source {s : Text} (h : source pieces = q.char :: s) :
    (joined pieces).head? = some q.char := by
  cases pieces with
  | nil => cases h
  | cons piece more =>
    cases piece with
    | plain c =>
      obtain ⟨rfl, -⟩ := List.cons.inj h
      rfl
    | found j =>
      rw [source_found, text_eq_cons] at h
      have hletter := (List.cons.inj h).1
      cases q <;> cases hletter

theorem Fitting.mem_text {j : Judged} (hj : j.Fitting) (hq : q.char ∈ j.text) :
    q.char ∈ j.clause.text := by
  rcases j.text_eq_or_replace with ⟨-, htext⟩ | ⟨new, hnew, -, htext⟩
  · exact htext ▸ hq
  · by_contra hnot
    exact quote_not_mem_render (hj.fits new hnew) hnot (htext ▸ hq)

/-- No quote comes in that was not there. -/
theorem mem_source_of_mem_joined (hfits : ∀ j ∈ pieces.filterMap Piece.found?, j.Fitting)
    (hq : q.char ∈ joined pieces) : q.char ∈ source pieces := by
  induction pieces with
  | nil => exact hq
  | cons piece more ih =>
    cases piece with
    | plain c => exact List.mem_cons.2 ((List.mem_cons.1 hq).imp_right (ih hfits))
    | found j =>
      obtain ⟨hj, hmore⟩ := List.forall_mem_cons.1 hfits
      exact List.mem_append.2 ((List.mem_append.1 hq).imp hj.mem_text (ih hmore))

/-- Unless it loses a line break, a clause that holds the quote now held it before, on the same
line. -/
theorem Fitting.closed_or_continues {j : Judged} {s : Text} (hj : j.Fitting)
    (hkeeps : ¬ j.LosesBreak) (h : Closed q (j.text ++ s)) :
    (∀ s', Closed q (j.clause.text ++ s')) ∨
      q.char ∉ j.clause.text ∧ '\n' ∉ j.clause.text ∧ Closed q s := by
  rcases j.text_eq_or_replace with ⟨-, htext⟩ | ⟨new, hnew, hreplaced, htext⟩
  · rw [htext] at h
    exact h.of_append
  · have hline := newline_not_mem_text hj.valid fun hbreak => hkeeps ⟨hreplaced, hbreak⟩
    by_cases hq : q.char ∈ j.clause.text
    · exact Or.inl fun s' => Closed.of_mem hq hline s'
    · rcases h.of_append with hclosed | ⟨-, -, hrest⟩
      · have hmem := (hclosed []).mem
        rw [List.append_nil] at hmem
        exact absurd (hj.mem_text hmem) hq
      · exact Or.inr ⟨hq, hline, hrest⟩

/-- What is closed in the new text was closed in the old one, or its line ended in the blanks of a
clause that has lost them. -/
theorem closed_source_or_losesBreak (hfits : ∀ j ∈ pieces.filterMap Piece.found?, j.Fitting)
    (h : Closed q (joined pieces)) : Closed q (source pieces) ∨ LosesBreakBefore q pieces := by
  induction pieces with
  | nil => exact Or.inl h
  | cons piece more ih =>
    -- What the first piece adds on its line is in front of whatever the others come to.
    have hgoes : ∀ u, (q.char ∉ u ∧ '\n' ∉ u ∧ Closed q (joined more)) →
        (∀ s, source (piece :: s) = u ++ source s) →
        (∀ j ∈ more.filterMap Piece.found?, j.Fitting) →
        Closed q (source (piece :: more)) ∨ LosesBreakBefore q (piece :: more) := by
      rintro u ⟨hquote, hbreak, hclosed⟩ hu hmore
      rcases ih hmore hclosed with hsource | ⟨before, j, after, rfl, hloses, hquote', hbreak'⟩
      · rw [hu]
        exact Or.inl (hsource.append_left u (forall_inTarget_iff.2 ⟨hquote, hbreak⟩))
      · refine Or.inr ⟨piece :: before, j, after, rfl, hloses, ?_, ?_⟩
        · rw [hu]
          simp [hquote, hquote']
        · rw [hu]
          simp [hbreak, hbreak']
    cases piece with
    | plain c =>
      rcases Closed.of_append (u := [c]) h with hclosed | hrest
      · exact Or.inl (hclosed _)
      · exact hgoes [c] hrest (fun s => rfl) hfits
    | found j =>
      obtain ⟨hj, hmore⟩ := List.forall_mem_cons.1 hfits
      by_cases hloses : j.LosesBreak
      · exact Or.inr ⟨[], j, more, rfl, hloses, by simp [source], by simp [source]⟩
      · rcases hj.closed_or_continues hloses h with hclosed | hrest
        · exact Or.inl (hclosed _)
        · exact hgoes _ hrest (fun s => rfl) hmore

/-- Where no clause starts in the old text, none starts in the new one, unless that closes a literal
that was left open before a line break. -/
theorem read?_joined_eq_none (hfits : ∀ j ∈ pieces.filterMap Piece.found?, j.Fitting) {c : Char}
    (hnone : read? (c :: source pieces) = none) :
    read? (c :: joined pieces) = none ∨ OpensIn (.plain c :: pieces) := by
  cases hread : read? (c :: joined pieces) with
  | none => exact Or.inl rfl
  | some clause =>
    obtain ⟨hv, rest, hrest⟩ := read?_eq_some_iff.1 hread
    rcases hl : clause.literal with ⟨quote, target⟩
    have hshape : c :: joined pieces =
        'f' :: ((['r', 'o', 'm'] ++ clause.blanks ++ [quote.char]) ++
          (target ++ quote.char :: rest)) := by
      simp [hrest, Clause.text, Literal.text, hl]
    obtain ⟨rfl, hjoined⟩ := List.cons.inj hshape
    have hopen : ∀ x ∈ ['r', 'o', 'm'] ++ clause.blanks ++ [quote.char], x ≠ 'f' := by
      intro x hx
      simp only [List.mem_append, List.mem_cons, List.not_mem_nil, or_false] at hx
      rcases hx with ((rfl | rfl | rfl) | hb) | rfl
      · decide
      · decide
      · decide
      · exact ne_letter_of_isBlank (hv.blanks x hb)
      · cases quote <;> decide
    obtain ⟨more, rfl, hmore⟩ := exists_plains_of_joined hopen hjoined
    have hfound : ∀ j ∈ more.filterMap Piece.found?, j.Fitting := by
      intro j hj
      refine hfits j ?_
      rw [List.filterMap_append]
      exact List.mem_append_right _ hj
    have hclosed : Closed quote (joined more) :=
      ⟨target, rest, hmore, by simpa [hl] using hv.target⟩
    rcases closed_source_or_losesBreak hfound hclosed with
      ⟨before, after, hsource, hbefore⟩ | ⟨before, j, after, rfl, hloses, hquote, hbreak⟩
    · -- The old literal is not empty either: its first character would be that of the new one.
      have hne : before ≠ [] := by
        rintro rfl
        have hhead := head?_joined_of_source hsource
        obtain ⟨d, tail, rfl⟩ := List.exists_cons_of_ne_nil (by simpa [hl] using hv.target_ne)
        rw [hmore] at hhead
        obtain rfl : d = quote.char := Option.some.inj hhead
        have hin := hv.target quote.char (by simp [hl])
        rw [hl] at hin
        exact (inTarget_iff.1 hin).1 rfl
      have hold : Clause.Valid ⟨clause.blanks, ⟨quote, before⟩⟩ :=
        ⟨hv.blanks_ne, hv.blanks, hne, hbefore⟩
      have hsome := read?_text hold after
      have heq : Clause.text ⟨clause.blanks, ⟨quote, before⟩⟩ ++ after =
          'f' :: source ((['r', 'o', 'm'] ++ clause.blanks ++ [quote.char]).map .plain ++ more) := by
        rw [source_append, source_map_plain, hsource]
        simp [Clause.text, Literal.text]
      rw [heq, hnone] at hsome
      cases hsome
    · refine Or.inr ⟨quote,
        ('f' :: (['r', 'o', 'm'] ++ clause.blanks ++ [quote.char])).map .plain ++ before, j, after,
        ?_, hloses, ?_, ?_⟩
      · simp
      · refine ⟨[], clause.blanks, source before, ?_, hv.blanks_ne, hv.blanks, hquote, hbreak⟩
        rw [source_append, source_map_plain]
        simp
      · have hmem := mem_source_of_mem_joined hfound hclosed.mem
        rw [source_append, source_found] at hmem
        exact (List.mem_append.1 hmem).resolve_left hquote

end Pieces

end Judged

end ImportAlias
