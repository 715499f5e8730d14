import ImportAlias.Proofs.Clause.Reading
import ImportAlias.Redirect.Legacy
import Mathlib.Data.Set.Insert

/-!
# What is read as a legacy clause

A loose clause is a clause whose closing quote need not be the opening one. A text starts with at
most one, if no target holds a quote, and a kind of legacy clause recognises exactly the loose
clauses with one of its targets.
-/
namespace ImportAlias

structure LooseClause where
  blanks : Text
  opening : Quote
  target : Text
  closing : Quote

namespace LooseClause

def text (c : LooseClause) : Text :=
  ['f', 'r', 'o', 'm'] ++ c.blanks ++ c.opening.char :: (c.target ++ [c.closing.char])

/-- The clause is well-formed, and its target is one of the given ones. -/
structure Of (targets : Set Text) (c : LooseClause) : Prop where
  blanks_ne : c.blanks ≠ []
  blanks : ∀ b ∈ c.blanks, isBlank b = true
  target : c.target ∈ targets

theorem Of.mono {targets targets' : Set Text} {c : LooseClause} (hsub : targets ⊆ targets')
    (h : c.Of targets) : c.Of targets' :=
  ⟨h.blanks_ne, h.blanks, hsub h.target⟩

/-- What keeps clauses apart: no target holds a quote, or the letter that a clause starts with. -/
structure Apart (targets : Set Text) : Prop where
  no_quote : ∀ t ∈ targets, ∀ q : Quote, q.char ∉ t
  no_letter : ∀ t ∈ targets, 'f' ∉ t

theorem Apart.mono {targets targets' : Set Text} (h : Apart targets') (hsub : targets ⊆ targets') :
    Apart targets :=
  ⟨fun t ht => h.no_quote t (hsub ht), fun t ht => h.no_letter t (hsub ht)⟩

theorem ofChar?_eq_none {t : Text} (hquote : ∀ q : Quote, q.char ∉ t) {x : Char} (hx : x ∈ t) :
    (Quote.ofChar? x).isNone = true := by
  cases hq : Quote.ofChar? x with
  | none => rfl
  | some q => exact absurd (Quote.char_of_ofChar? hq ▸ hx) (hquote q)

theorem text_append (c : LooseClause) (rest : Text) :
    c.text ++ rest = 'f' :: 'r' :: 'o' :: 'm' ::
      (c.blanks ++ c.opening.char :: (c.target ++ c.closing.char :: rest)) := by
  simp [text]

/-- A text starts with at most one clause. -/
theorem eq_of_text_append {targets targets' : Set Text} {c d : LooseClause} {u v : Text}
    (hc : c.Of targets) (hd : d.Of targets') (hcq : ∀ q : Quote, q.char ∉ c.target)
    (hdq : ∀ q : Quote, q.char ∉ d.target) (h : c.text ++ u = d.text ++ v) : c = d ∧ u = v := by
  rw [text_append, text_append] at h
  simp only [List.cons.injEq, true_and] at h
  obtain ⟨hblanks, hopening, htail⟩ := append_stop_inj hc.blanks (Quote.not_isBlank_char _)
    hd.blanks (Quote.not_isBlank_char _) h
  have hstop : ∀ q : Quote, (Quote.ofChar? q.char).isNone = false := by
    intro q
    rw [Quote.ofChar?_char]
    rfl
  obtain ⟨htarget, hclosing, hrest⟩ := append_stop_inj (fun x hx => ofChar?_eq_none hcq hx)
    (hstop _) (fun x hx => ofChar?_eq_none hdq hx) (hstop _) htail
  refine ⟨?_, hrest⟩
  cases c
  cases d
  simp only [mk.injEq]
  exact ⟨hblanks, Quote.char_injective hopening, htarget, Quote.char_injective hclosing⟩

/-- Only the first letter of a clause can be the start of another. -/
theorem text_eq_cons {targets : Set Text} (happart : Apart targets) {c : LooseClause}
    (hc : c.Of targets) : ∃ tail, c.text = 'f' :: tail ∧ 'f' ∉ tail := by
  refine ⟨_, rfl, ?_⟩
  have hblank : 'f' ∉ c.blanks := fun h => ne_letter_of_isBlank (hc.blanks _ h) rfl
  have hquote : ∀ q : Quote, 'f' ≠ q.char := by
    intro q
    cases q <;> decide
  simp [hblank, hquote, happart.no_letter _ hc.target]

end LooseClause

namespace Legacy

/-- A run of `./` and `../`. -/
inductive Steps : Text → Prop
  | none : Steps []
  | here {w : Text} : Steps w → Steps ('.' :: '/' :: w)
  | up {w : Text} : Steps w → Steps ('.' :: '.' :: '/' :: w)

def Way.spellings : Way → Set Text
  | climbing => {w | Steps w ∧ w ≠ []}
  | aliased => {"@/".toList}

def Package.spellings : Package → Set Text
  | types => {"types".toList}
  | supabase => {"supabase".toList, "lib/supabase".toList}

/-- The targets of one kind of legacy clause. -/
def targets (l : Legacy) : Set Text :=
  {t | ∃ w ∈ l.way.spellings, ∃ p ∈ l.package.spellings, t = w ++ p}

/-- The targets of some of the kinds. -/
def targetsOf (ls : List Legacy) : Set Text :=
  {t | ∃ l ∈ ls, t ∈ l.targets}

theorem targetsOf_nil : targetsOf [] = ∅ := by
  ext t
  simp [targetsOf]

theorem targetsOf_cons (l : Legacy) (ls : List Legacy) :
    targetsOf (l :: ls) = l.targets ∪ targetsOf ls := by
  ext t
  simp [targetsOf]

theorem Package.eq_of_mem_spellings {p : Package} {t : Text} (h : t ∈ p.spellings) :
    t = ['t', 'y', 'p', 'e', 's'] ∨ t = ['s', 'u', 'p', 'a', 'b', 'a', 's', 'e'] ∨
      t = ['l', 'i', 'b', '/', 's', 'u', 'p', 'a', 'b', 'a', 's', 'e'] := by
  cases p with
  | types => exact Or.inl h
  | supabase => exact Or.inr h

theorem climb_append {w : Text} (hw : Steps w) (rest : Text) :
    climb (w ++ rest) = w.length + climb rest := by
  induction hw with
  | none => simp
  | here _ ih =>
    simp only [List.cons_append, List.length_cons, climb, ih]
    omega
  | up _ ih =>
    simp only [List.cons_append, List.length_cons, climb, ih]
    omega

theorem exists_steps (s : Text) : ∃ w rest, Steps w ∧ s = w ++ rest ∧ w.length = climb s := by
  fun_induction climb s with
  | case1 rest ih =>
    obtain ⟨w, after, hw, rfl, hlen⟩ := ih
    exact ⟨_, after, hw.up, rfl, by simp [hlen]⟩
  | case2 rest ih =>
    obtain ⟨w, after, hw, rfl, hlen⟩ := ih
    exact ⟨_, after, hw.here, rfl, by simp [hlen]⟩
  | case3 s _ _ => exact ⟨[], s, Steps.none, rfl, rfl⟩

theorem climb_package {p : Package} {t : Text} (ht : t ∈ p.spellings) (rest : Text) :
    climb (t ++ rest) = 0 := by
  rcases Package.eq_of_mem_spellings ht with rfl | rfl | rfl <;> rfl

theorem Way.size?_append {way : Way} {w : Text} (hw : w ∈ way.spellings) {rest : Text}
    (hrest : climb rest = 0) : way.size? (w ++ rest) = some w.length := by
  cases way with
  | climbing =>
    obtain ⟨hsteps, hne⟩ := hw
    have hlen : w.length ≠ 0 := fun h => hne (List.length_eq_zero_iff.1 h)
    simp [size?, climb_append hsteps, hrest, hlen]
  | aliased =>
    cases Set.mem_singleton_iff.1 hw
    rfl

theorem Way.exists_of_size? {way : Way} {s : Text} {n : Nat} (h : way.size? s = some n) :
    ∃ w ∈ way.spellings, ∃ rest, s = w ++ rest ∧ w.length = n := by
  cases way with
  | climbing =>
    rw [size?] at h
    split at h
    · cases h
    · rename_i hne
      cases h
      obtain ⟨w, rest, hw, hs, hlen⟩ := exists_steps s
      refine ⟨w, ⟨hw, ?_⟩, rest, hs, hlen⟩
      rintro rfl
      exact hne hlen.symm
  | aliased =>
    rw [size?] at h
    split at h
    · rename_i hstart
      cases h
      obtain ⟨rest, rfl⟩ := List.isPrefixOf_iff_prefix.1 hstart
      exact ⟨_, Set.mem_singleton _, rest, rfl, rfl⟩
    · cases h

theorem Package.size?_append {p : Package} {t : Text} (ht : t ∈ p.spellings) (rest : Text) :
    p.size? (t ++ rest) = some t.length := by
  cases p with
  | types =>
    cases Set.mem_singleton_iff.1 ht
    simp [size?, folder, name]
  | supabase =>
    rcases ht with rfl | ht
    · simp [size?, folder, name]
    · cases Set.mem_singleton_iff.1 ht
      simp [size?, folder, name]

theorem Package.exists_of_size? {p : Package} {s : Text} {n : Nat} (h : p.size? s = some n) :
    ∃ t ∈ p.spellings, ∃ rest, s = t ++ rest ∧ t.length = n := by
  dsimp only [size?] at h
  split at h
  · rename_i hname
    cases h
    obtain ⟨rest, hrest⟩ := List.isPrefixOf_iff_prefix.1 hname
    cases p with
    | types => exact ⟨_, Set.mem_singleton _, rest, hrest.symm, rfl⟩
    | supabase =>
      by_cases hlib : ['l', 'i', 'b', '/'].isPrefixOf s = true
      · obtain ⟨after, rfl⟩ := List.isPrefixOf_iff_prefix.1 hlib
        refine ⟨_, Or.inr (Set.mem_singleton _), rest, ?_, ?_⟩
        · simp [folder] at hrest
          simp [← hrest, name]
        · simp [folder, name]
      · refine ⟨_, Or.inl rfl, rest, ?_, ?_⟩
        · simpa [folder, hlib, name] using hrest.symm
        · simp [folder, hlib, name]
  · cases h

/-- A kind takes exactly its targets from the start of a text. -/
theorem size?_eq_some_iff {l : Legacy} {s : Text} {n : Nat} :
    l.size? s = some n ↔ ∃ t ∈ l.targets, ∃ rest, s = t ++ rest ∧ t.length = n := by
  constructor
  · intro h
    obtain ⟨a, ha, h⟩ := Option.bind_eq_some_iff.1 h
    obtain ⟨b, hb, h⟩ := Option.bind_eq_some_iff.1 h
    cases h
    obtain ⟨w, hw, after, rfl, rfl⟩ := Way.exists_of_size? ha
    rw [List.drop_left] at hb
    obtain ⟨p, hp, rest, rfl, rfl⟩ := Package.exists_of_size? hb
    exact ⟨w ++ p, ⟨w, hw, p, hp, rfl⟩, rest, (List.append_assoc ..).symm, List.length_append⟩
  · rintro ⟨_, ⟨w, hw, p, hp, rfl⟩, rest, rfl, rfl⟩
    rw [List.append_assoc, size?, Way.size?_append hw (climb_package hp rest)]
    simp [Package.size?_append hp]

theorem Steps.mem {w : Text} (hw : Steps w) {x : Char} (hx : x ∈ w) : x = '.' ∨ x = '/' := by
  induction hw with
  | none => cases hx
  | here _ ih =>
    simp only [List.mem_cons] at hx
    rcases hx with rfl | rfl | hx
    · exact Or.inl rfl
    · exact Or.inr rfl
    · exact ih hx
  | up _ ih =>
    simp only [List.mem_cons] at hx
    rcases hx with rfl | rfl | rfl | hx
    · exact Or.inl rfl
    · exact Or.inl rfl
    · exact Or.inr rfl
    · exact ih hx

/-- The characters of a legacy target. -/
def alphabet : Text := ['.', '/', '@', 't', 'y', 'p', 'e', 's', 'u', 'a', 'b', 'l', 'i']

theorem mem_alphabet {l : Legacy} {t : Text} (ht : t ∈ l.targets) : ∀ x ∈ t, x ∈ alphabet := by
  obtain ⟨w, hw, p, hp, rfl⟩ := ht
  rw [List.forall_mem_append]
  constructor
  · cases hway : l.way with
    | climbing =>
      rw [hway] at hw
      intro x hx
      rcases hw.1.mem hx with rfl | rfl <;> decide
    | aliased =>
      rw [hway] at hw
      cases Set.mem_singleton_iff.1 hw
      simp [alphabet]
  · rcases Package.eq_of_mem_spellings hp with rfl | rfl | rfl <;> simp [alphabet]

theorem apart_targets (l : Legacy) : LooseClause.Apart l.targets where
  no_quote := by
    intro t ht q hq
    have hmem := mem_alphabet ht _ hq
    revert hmem
    cases q <;> decide
  no_letter := by
    intro t ht hf
    exact absurd (mem_alphabet ht _ hf) (by decide)

theorem apart_targetsOf (ls : List Legacy) : LooseClause.Apart (targetsOf ls) where
  no_quote := fun t ⟨l, _, ht⟩ => l.apart_targets.no_quote t ht
  no_letter := fun t ⟨l, _, ht⟩ => l.apart_targets.no_letter t ht

theorem readLiteral?_eq_some_iff {l : Legacy} {s : Text} {opening : Quote} {n : Nat} :
    l.readLiteral? s = some (opening, n) ↔ ∃ t ∈ l.targets, ∃ (closing : Quote) (rest : Text),
      s = opening.char :: (t ++ closing.char :: rest) ∧ t.length + 2 = n := by
  constructor
  · intro h
    cases s with
    | nil => cases h
    | cons q body =>
      obtain ⟨quote, hquote, h⟩ := Option.bind_eq_some_iff.1 h
      obtain ⟨size, hsize, h⟩ := Option.bind_eq_some_iff.1 h
      obtain ⟨last, hlast, h⟩ := Option.bind_eq_some_iff.1 h
      obtain ⟨closing, hclosing, h⟩ := Option.bind_eq_some_iff.1 h
      cases h
      obtain ⟨t, ht, after, rfl, rfl⟩ := size?_eq_some_iff.1 hsize
      rw [List.drop_left] at hlast
      obtain ⟨rest, rfl⟩ := List.head?_eq_some_iff.1 hlast
      rw [← Quote.char_of_ofChar? hquote, ← Quote.char_of_ofChar? hclosing]
      exact ⟨t, ht, closing, rest, rfl, rfl⟩
  · rintro ⟨t, ht, closing, rest, rfl, rfl⟩
    have hsize : l.size? (t ++ closing.char :: rest) = some t.length :=
      size?_eq_some_iff.2 ⟨t, ht, _, rfl, rfl⟩
    simp [readLiteral?, hsize, Quote.ofChar?_char]

/-- A kind recognises exactly the loose clauses with one of its targets. -/
theorem recognise_eq_some_iff {l : Legacy} {s : Text} {opening : Quote} {n : Nat} :
    l.recognise s = some (opening, n) ↔ ∃ c : LooseClause, c.Of l.targets ∧
      (∃ rest, s = c.text ++ rest) ∧ c.opening = opening ∧ c.text.length = n := by
  constructor
  · intro h
    unfold recognise at h
    split at h
    · rename_i rest
      dsimp only at h
      split at h
      · cases h
      · rename_i hne
        obtain ⟨⟨_, size⟩, hread, heq⟩ := Option.map_eq_some_iff.1 h
        obtain ⟨rfl, rfl⟩ := Prod.mk.inj heq
        obtain ⟨t, ht, closing, after, hafter, rfl⟩ := readLiteral?_eq_some_iff.1 hread
        refine ⟨⟨rest.takeWhile isBlank, _, t, closing⟩, ⟨hne, ?_, ht⟩, ⟨after, ?_⟩, rfl, ?_⟩
        · exact fun b hb => List.mem_takeWhile_imp hb
        · rw [LooseClause.text_append, ← hafter, takeWhile_append_drop_length]
        · simp only [LooseClause.text, List.length_append, List.length_cons, List.length_nil]
          omega
    · cases h
  · rintro ⟨c, hc, ⟨rest, rfl⟩, rfl, rfl⟩
    have htake : (c.blanks ++ c.opening.char :: (c.target ++ c.closing.char :: rest)).takeWhile
        isBlank = c.blanks := takeWhile_append_stop hc.blanks (Quote.not_isBlank_char _)
    have hread : l.readLiteral? (c.opening.char :: (c.target ++ c.closing.char :: rest)) =
        some (c.opening, c.target.length + 2) :=
      readLiteral?_eq_some_iff.2 ⟨c.target, hc.target, c.closing, rest, rfl, rfl⟩
    rw [LooseClause.text_append, recognise]
    simp only [htake, hc.blanks_ne, if_false, List.drop_left, hread, Option.map_some,
      LooseClause.text, List.length_append, List.length_cons, List.length_nil]
    congr 2
    omega

theorem advances_recognise (l : Legacy) : Advances l.recognise := by
  intro s q n h
  obtain ⟨c, -, ⟨rest, rfl⟩, -, rfl⟩ := recognise_eq_some_iff.1 h
  have hpos : 0 < c.text.length := Nat.succ_pos _
  rw [List.length_append]
  omega

end Legacy

end ImportAlias
