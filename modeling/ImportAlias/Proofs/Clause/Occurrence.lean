import ImportAlias.Proofs.Clause.Reading

/-!
# Which clauses of a text are found

The text of a clause may stand anywhere in a text, and such places may overlap, since a target can
hold the word `from`. The clauses that are found lie one behind the other, and every other place of
a clause starts inside one of them (`CoversFrom`). This says nothing about a scan, and no two lists
of places have it.
-/
namespace ImportAlias

/-- A place where a clause stands in the text `s`: `from`, at least one blank, and a target between two
quotes that is not empty and holds neither this quote nor a line break. -/
@[ext] structure Occurrence (s : Text) where
  start : Nat
  clause : Clause
  blanks_ne : clause.blanks ≠ []
  blanks : ∀ b ∈ clause.blanks, isBlank b = true
  target_ne : clause.literal.target ≠ []
  no_quote : clause.literal.quote.char ∉ clause.literal.target
  no_break : '\n' ∉ clause.literal.target
  stands : clause.text <+: s.drop start

namespace Occurrence
variable {s : Text}

theorem valid (o : Occurrence s) : o.clause.Valid :=
  ⟨o.blanks_ne, o.blanks, o.target_ne, Clause.forall_inTarget_iff.2 ⟨o.no_quote, o.no_break⟩⟩

/-- The position behind the clause. -/
def stop (o : Occurrence s) : Nat := o.start + o.clause.text.length

theorem start_lt_stop (o : Occurrence s) : o.start < o.stop := by
  have hpos := List.length_pos_iff.2 (Clause.text_ne_nil o.clause)
  unfold stop
  omega

theorem start_lt_length (o : Occurrence s) : o.start < s.length := by
  have hpos := List.length_pos_iff.2 (Clause.text_ne_nil o.clause)
  have hle := o.stands.length_le
  rw [List.length_drop] at hle
  omega

/-- A clause that stands at a position is read there. -/
theorem read?_drop (o : Occurrence s) : Clause.read? (s.drop o.start) = some o.clause := by
  obtain ⟨after, hafter⟩ := o.stands
  exact Clause.read?_eq_some_iff.2 ⟨o.valid, after, hafter.symm⟩

/-- At most one clause stands at a position. -/
theorem eq_of_start_eq {o p : Occurrence s} (h : o.start = p.start) : o = p := by
  have hclause : some o.clause = some p.clause := by
    rw [← o.read?_drop, ← p.read?_drop, h]
  exact Occurrence.ext h (Option.some.inj hclause)

/-- What starts behind an occurrence starts after it. -/
theorem start_le_of_stop_le {o : Occurrence s} {found : List (Occurrence s)}
    (h : ∀ p ∈ found, o.stop ≤ p.start) : ∀ p ∈ o :: found, o.start ≤ p.start := by
  have hlt := o.start_lt_stop
  refine List.forall_mem_cons.2 ⟨Nat.le_refl _, ?_⟩
  intro p hp
  have hle := h p hp
  omega

end Occurrence

/-- Seen from the position `k` on: the occurrences lie one behind the other, and each occurrence that
is none of them starts inside one of them. -/
structure CoversFrom {s : Text} (k : Nat) (found : List (Occurrence s)) : Prop where
  from_le : ∀ o ∈ found, k ≤ o.start
  apart : found.Pairwise fun o p => o.stop ≤ p.start
  complete : ∀ o : Occurrence s, k ≤ o.start →
    o ∈ found ∨ ∃ p ∈ found, p.start < o.start ∧ o.start < p.stop

namespace CoversFrom
variable {s : Text} {k : Nat} {o : Occurrence s} {found other : List (Occurrence s)}

/-! ## One step of a scan -/

theorem nil_of_length_le (h : s.length ≤ k) : CoversFrom (s := s) k [] where
  from_le _ hnone := absurd hnone List.not_mem_nil
  apart := .nil
  complete o hfrom := by
    have hlt := o.start_lt_length
    omega

/-- A position where no clause is read can be left out. -/
theorem skip (hnone : Clause.read? (s.drop k) = none) (h : CoversFrom (k + 1) found) :
    CoversFrom k found where
  from_le o ho := by
    have hle := h.from_le o ho
    omega
  apart := h.apart
  complete o hfrom := by
    have hne : o.start ≠ k := by
      rintro rfl
      rw [o.read?_drop] at hnone
      cases hnone
    exact h.complete o (by omega)

/-- An occurrence goes before those that cover what is behind it. -/
theorem cons (h : CoversFrom o.stop found) : CoversFrom o.start (o :: found) where
  from_le := Occurrence.start_le_of_stop_le h.from_le
  apart := List.pairwise_cons.2 ⟨h.from_le, h.apart⟩
  complete q hfrom := by
    by_cases hbehind : o.stop ≤ q.start
    · rcases h.complete q hbehind with hq | ⟨p, hp, hinside⟩
      · exact Or.inl (List.mem_cons_of_mem o hq)
      · exact Or.inr ⟨p, List.mem_cons_of_mem o hp, hinside⟩
    by_cases hsame : q.start = o.start
    · rw [Occurrence.eq_of_start_eq hsame]
      exact Or.inl List.mem_cons_self
    · exact Or.inr ⟨o, List.mem_cons_self, by omega, by omega⟩

/-- The clauses that a scan finds behind `before` are those of covering occurrences. The induction is
along the scan; `before` is what it has passed. -/
theorem exists_of_scan (rest : Text) : ∀ before, s = before ++ rest →
    ∃ found : List (Occurrence s), CoversFrom before.length found ∧
      found.map Occurrence.clause = clauses rest := by
  unfold clauses
  induction rest using Clause.scan_induction with
  | nil =>
    rintro before rfl
    exact ⟨[], nil_of_length_le (by simp), rfl⟩
  | plain c rest hnone ih =>
    intro before hs
    obtain ⟨found, hfound, hclauses⟩ := ih (before ++ [c]) (by simp [hs])
    rw [List.length_append, List.length_singleton] at hfound
    refine ⟨found, hfound.skip ?_, hclauses⟩
    rw [hs, List.drop_left]
    exact hnone
  | found c rest hc ih =>
    intro before hs
    obtain ⟨found, hfound, hclauses⟩ := ih (before ++ c.text) (by simp [hs])
    rw [List.length_append] at hfound
    have hstands : c.text <+: s.drop before.length := by
      rw [hs, List.drop_left]
      exact List.prefix_append c.text rest
    obtain ⟨hquote, hbreak⟩ := Clause.forall_inTarget_iff.1 hc.target
    let o : Occurrence s :=
      ⟨before.length, c, hc.blanks_ne, hc.blanks, hc.target_ne, hquote, hbreak, hstands⟩
    exact ⟨o :: found, cons (o := o) hfound, congrArg (c :: ·) hclauses⟩

/-! ## Uniqueness -/

/-- No occurrence comes before the first of those that cover. -/
theorem start_le (h : CoversFrom k (o :: found)) {q : Occurrence s} (hq : k ≤ q.start) :
    o.start ≤ q.start := by
  have hfirst : ∀ p ∈ o :: found, o.start ≤ p.start :=
    Occurrence.start_le_of_stop_le (List.pairwise_cons.1 h.apart).1
  rcases h.complete q hq with hmem | ⟨p, hp, hinside⟩
  · exact hfirst q hmem
  · have hle := hfirst p hp
    omega

theorem tail (h : CoversFrom k (o :: found)) : CoversFrom o.stop found where
  from_le p hp := List.rel_of_pairwise_cons h.apart hp
  apart := h.apart.of_cons
  complete q hbehind := by
    have hlt := o.start_lt_stop
    have hfirst := h.from_le o List.mem_cons_self
    rcases h.complete q (by omega) with hq | ⟨p, hp, hinside⟩
    · rcases List.mem_cons.1 hq with rfl | hq
      · omega
      · exact Or.inl hq
    · rcases List.mem_cons.1 hp with rfl | hp
      · omega
      · exact Or.inr ⟨p, hp, hinside⟩

theorem eq_nil_of_nil (h : CoversFrom k ([] : List (Occurrence s))) (hother : CoversFrom k other) :
    other = [] := by
  cases other with
  | nil => rfl
  | cons p rest =>
    rcases h.complete p (hother.from_le p List.mem_cons_self) with hnone | ⟨q, hnone, -⟩
    · cases hnone
    · cases hnone

/-- Two lists that cover the same part of a text have the same first occurrence, and what is behind
it is covered by both again. -/
theorem unique (h : CoversFrom k found) (hother : CoversFrom k other) : other = found := by
  induction found generalizing k other with
  | nil => exact eq_nil_of_nil h hother
  | cons o rest ih =>
    cases other with
    | nil => exact (eq_nil_of_nil hother h).symm
    | cons p more =>
      have hle := h.start_le (hother.from_le p List.mem_cons_self)
      have hge := hother.start_le (h.from_le o List.mem_cons_self)
      obtain rfl := Occurrence.eq_of_start_eq (Nat.le_antisymm hge hle)
      rw [ih h.tail hother.tail]

end CoversFrom

/-- The literals of a text are those of the occurrences that cover it, and there is only one way to
cover a text. -/
theorem literals_eq_map_covering (s : Text) :
    ∃ found : List (Occurrence s), CoversFrom 0 found ∧
      literals s = found.map (fun o => o.clause.literal) ∧
      ∀ other : List (Occurrence s), CoversFrom 0 other → other = found := by
  obtain ⟨found, hfound, hclauses⟩ := CoversFrom.exists_of_scan s [] rfl
  refine ⟨found, hfound, ?_, fun other hother => hfound.unique hother⟩
  rw [literals_eq_map_clauses, ← hclauses, List.map_map]
  rfl

-- The clause in double quotes starts inside the one that is found.
example : literals "from 'a from \"b' c\"".toList = [⟨.single, "a from \"b".toList⟩] := by decide

end ImportAlias
