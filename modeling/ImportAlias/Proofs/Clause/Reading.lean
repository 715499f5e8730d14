import ImportAlias.Clause
import ImportAlias.Proofs.Text.Scanning
import Mathlib.Data.List.TakeWhile

/-!
# What is read as a clause

A text starts with a clause exactly when it starts with the text of a well-formed one, and the
clause is then determined. The scan of a text goes on by a single character where no clause
starts, and by a whole clause where one does; `Clause.scan_induction` follows it.
-/
namespace ImportAlias

namespace Quote

theorem char_ne_newline (q : Quote) : q.char ≠ '\n' := by
  cases q <;> decide

theorem not_isBlank_char (q : Quote) : isBlank q.char = false := by
  cases q <;> decide

theorem char_injective {p q : Quote} (h : p.char = q.char) : p = q := by
  cases p <;> cases q <;> first | rfl | exact absurd h (by decide)

end Quote

theorem isBlank_space : isBlank ' ' = true := by decide

/-- The only character that can start a clause is no blank. -/
theorem ne_letter_of_isBlank {b : Char} (h : isBlank b = true) : b ≠ 'f' := by
  rintro rfl
  exact absurd h (by decide)

section Split
variable {α : Type} {p : α → Bool}

theorem takeWhile_append_stop {u v : List α} {a : α} (hu : ∀ x ∈ u, p x = true)
    (ha : p a = false) : (u ++ a :: v).takeWhile p = u := by
  rw [List.takeWhile_append_of_pos hu, List.takeWhile_cons_of_neg (by simp [ha]), List.append_nil]

/-- Up to the first place where a test fails, two equal texts are the same. -/
theorem append_stop_inj {u u' v v' : List α} {a a' : α}
    (hu : ∀ x ∈ u, p x = true) (ha : p a = false) (hu' : ∀ x ∈ u', p x = true)
    (ha' : p a' = false) (h : u ++ a :: v = u' ++ a' :: v') : u = u' ∧ a = a' ∧ v = v' := by
  have heq : u = u' := by
    rw [← takeWhile_append_stop hu ha, h, takeWhile_append_stop hu' ha']
  subst heq
  have htail := List.append_cancel_left h
  exact ⟨rfl, List.cons.inj htail⟩

end Split

namespace Clause

/-- What makes a clause well-formed: it has blanks, and a target that is not empty and holds
neither the quote around it nor a line break. -/
structure Valid (c : Clause) : Prop where
  blanks_ne : c.blanks ≠ []
  blanks : ∀ b ∈ c.blanks, isBlank b = true
  target_ne : c.literal.target ≠ []
  target : ∀ x ∈ c.literal.target, inTarget c.literal.quote.char x = true

theorem inTarget_iff {q c : Char} : inTarget q c = true ↔ c ≠ q ∧ c ≠ '\n' := by
  simp [inTarget]

/-- What a target between the quotes `q` can be made of. -/
theorem forall_inTarget_iff {q : Char} {t : Text} :
    (∀ x ∈ t, inTarget q x = true) ↔ q ∉ t ∧ '\n' ∉ t := by
  simp only [inTarget_iff]
  constructor
  · intro h
    exact ⟨fun hq => (h q hq).1 rfl, fun hbreak => (h _ hbreak).2 rfl⟩
  · rintro ⟨hquote, hbreak⟩ x hx
    exact ⟨fun hq => hquote (hq ▸ hx), fun hb => hbreak (hb ▸ hx)⟩

theorem inTarget_self (q : Char) : inTarget q q = false := by
  simp [inTarget]

theorem readLiteral?_text {l : Literal} (hne : l.target ≠ [])
    (htarget : ∀ x ∈ l.target, inTarget l.quote.char x = true) (rest : Text) :
    readLiteral? (l.text ++ rest) = some l := by
  have hwhole : l.text ++ rest = l.quote.char :: (l.target ++ l.quote.char :: rest) := by
    simp [Literal.text]
  have htake : (l.target ++ l.quote.char :: rest).takeWhile (inTarget l.quote.char) = l.target :=
    takeWhile_append_stop htarget (inTarget_self _)
  rw [hwhole, readLiteral?, Quote.ofChar?_char]
  simp [htake, hne]

theorem valid_of_readLiteral? {s : Text} {l : Literal} (h : readLiteral? s = some l) :
    l.target ≠ [] ∧ ∀ x ∈ l.target, inTarget l.quote.char x = true := by
  cases s with
  | nil => simp [readLiteral?] at h
  | cons q body =>
    rw [readLiteral?] at h
    split at h
    · cases h
    · rename_i quote hq
      dsimp only at h
      split at h
      · cases h
      · rename_i hc
        cases h
        simp only [Bool.or_eq_true, decide_eq_true_eq, not_or] at hc
        refine ⟨hc.1, ?_⟩
        intro x hx
        rw [Quote.char_of_ofChar? hq]
        exact List.mem_takeWhile_imp hx

theorem read?_text {c : Clause} (hc : c.Valid) (rest : Text) :
    read? (c.text ++ rest) = some c := by
  have hwhole : c.text ++ rest =
      'f' :: 'r' :: 'o' :: 'm' :: (c.blanks ++ (c.literal.text ++ rest)) := by
    simp [text]
  have htake : (c.blanks ++ (c.literal.text ++ rest)).takeWhile isBlank = c.blanks := by
    rw [Literal.text, List.cons_append, List.cons_append]
    exact takeWhile_append_stop hc.blanks (Quote.not_isBlank_char _)
  rw [hwhole, read?]
  simp [htake, hc.blanks_ne, readLiteral?_text hc.target_ne hc.target]

theorem valid_of_read? {s : Text} {c : Clause} (h : read? s = some c) : c.Valid := by
  unfold read? at h
  split at h
  · rename_i rest
    dsimp only at h
    split at h
    · cases h
    · rename_i hne
      obtain ⟨l, hl, rfl⟩ := Option.map_eq_some_iff.1 h
      obtain ⟨htarget_ne, htarget⟩ := valid_of_readLiteral? hl
      exact ⟨hne, fun b hb => List.mem_takeWhile_imp hb, htarget_ne, htarget⟩
  · cases h

/-- Reading accepts exactly the well-formed clauses, whatever comes after them. -/
theorem read?_eq_some_iff {s : Text} {c : Clause} :
    read? s = some c ↔ c.Valid ∧ ∃ rest, s = c.text ++ rest := by
  constructor
  · intro h
    exact ⟨valid_of_read? h, eq_append_of_read? h⟩
  · rintro ⟨hc, rest, rfl⟩
    exact read?_text hc rest

theorem text_eq_cons (c : Clause) :
    c.text = 'f' :: (['r', 'o', 'm'] ++ c.blanks ++ c.literal.text) := rfl

theorem recognise_eq_none_iff {s : Text} : recognise s = none ↔ read? s = none :=
  Option.map_eq_none_iff

theorem advances_recognise : Advances recognise := by
  intro s c n h
  obtain ⟨_, hread, heq⟩ := Option.map_eq_some_iff.1 h
  obtain ⟨rfl, rfl⟩ := Prod.mk.inj heq
  obtain ⟨-, rest, rfl⟩ := read?_eq_some_iff.1 hread
  rw [text_eq_cons, List.length_append, List.length_cons]
  omega

theorem scan_text_append {c : Clause} (hc : c.Valid) (rest : Text) :
    scan recognise (c.text ++ rest) = .found c :: scan recognise rest := by
  have hr : recognise (c.text ++ rest) = some (c, c.text.length) := by
    rw [recognise, read?_text hc]
    rfl
  rw [scan_of_some advances_recognise hr, List.drop_left]

/-- Induction along the scan of a text. -/
theorem scan_induction {motive : Text → List (Piece Clause) → Prop} (nil : motive [] [])
    (plain : ∀ c rest, read? (c :: rest) = none → motive rest (scan recognise rest) →
      motive (c :: rest) (.plain c :: scan recognise rest))
    (found : ∀ c rest, c.Valid → motive rest (scan recognise rest) →
      motive (c.text ++ rest) (.found c :: scan recognise rest))
    (s : Text) : motive s (scan recognise s) := by
  induction s using ImportAlias.scan_induction advances_recognise with
  | nil => exact nil
  | plain c rest hnone ih => exact plain c rest (recognise_eq_none_iff.1 hnone) ih
  | found s c n hr ih =>
    obtain ⟨_, hread, heq⟩ := Option.map_eq_some_iff.1 hr
    obtain ⟨rfl, rfl⟩ := Prod.mk.inj heq
    obtain ⟨hc, rest, rfl⟩ := read?_eq_some_iff.1 hread
    rw [List.drop_left] at ih ⊢
    exact found _ rest hc ih

end Clause

/-- The clauses of a text, from left to right. -/
def clauses (s : Text) : List Clause := (scan Clause.recognise s).filterMap Piece.found?

theorem literals_eq_map_clauses (s : Text) : literals s = (clauses s).map Clause.literal := by
  rw [literals, clauses, List.map_filterMap]

theorem valid_of_mem_clauses {s : Text} {c : Clause} (h : c ∈ clauses s) : c.Valid := by
  unfold clauses at h
  induction s using Clause.scan_induction with
  | nil => cases h
  | plain d rest _ ih => exact ih h
  | found d rest hd ih =>
    rcases List.mem_cons.1 h with rfl | h
    · exact hd
    · exact ih h

/-- Where a text is cut between two pieces of its scan, the two parts are scanned as they were in the
whole. -/
theorem Clause.scan_of_append {u v : Text} {pieces more : List (Piece Clause)}
    (h : scan recognise (u ++ v) = pieces ++ more) (hu : pieces.flatMap (Piece.text text) = u) :
    scan recognise u = pieces ∧ scan recognise v = more := by
  induction pieces generalizing u with
  | nil =>
    subst hu
    exact ⟨rfl, h⟩
  | cons piece pieces ih =>
    have hvalid : ∀ c, piece = .found c → c.Valid := by
      rintro c rfl
      refine valid_of_mem_clauses (s := u ++ v) ?_
      rw [clauses, h]
      exact List.mem_cons_self
    subst hu
    cases piece with
    | plain c =>
      cases hread : read? (c :: (pieces.flatMap (Piece.text text) ++ v)) with
      | some d =>
        obtain ⟨hd, rest, hrest⟩ := read?_eq_some_iff.1 hread
        have hfound := scan_text_append hd rest
        rw [← hrest] at hfound
        cases hfound.symm.trans h
      | none =>
        have hbefore : read? (c :: pieces.flatMap (Piece.text text)) = none := by
          cases hsome : read? (c :: pieces.flatMap (Piece.text text)) with
          | none => rfl
          | some d =>
            obtain ⟨hd, rest, hrest⟩ := read?_eq_some_iff.1 hsome
            have hstill := read?_text hd (rest ++ v)
            rw [← List.append_assoc, ← hrest, List.cons_append, hread] at hstill
            cases hstill
        have hwhole := scan_cons_of_none (recognise_eq_none_iff.2 hread)
        obtain ⟨hscan, hmore⟩ := ih (List.cons.inj (hwhole.symm.trans h)).2 rfl
        refine ⟨?_, hmore⟩
        exact (scan_cons_of_none (recognise_eq_none_iff.2 hbefore)).trans (congrArg _ hscan)
    | found c =>
      have hc := hvalid c rfl
      have hwhole := scan_text_append hc (pieces.flatMap (Piece.text text) ++ v)
      rw [← List.append_assoc] at hwhole
      obtain ⟨hscan, hmore⟩ := ih (List.cons.inj (hwhole.symm.trans h)).2 rfl
      exact ⟨(scan_text_append hc _).trans (congrArg _ hscan), hmore⟩

end ImportAlias
