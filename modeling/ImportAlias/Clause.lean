import ImportAlias.Target.Anchor
import ImportAlias.Text.Blank
import ImportAlias.Text.Scan

/-!
# From-clauses

A from-clause of a module text is the word `from`, at least one blank, and a quoted target that is
not empty and stays on its line. Import and export statements end in one.
-/
namespace ImportAlias

inductive Quote where
  | single
  | double
  deriving DecidableEq

namespace Quote

def char : Quote → Char
  | single => '\''
  | double => '"'

def ofChar? (c : Char) : Option Quote :=
  if c = '\'' then some single else if c = '"' then some double else none

theorem ofChar?_char (q : Quote) : ofChar? q.char = some q := by
  cases q <;> rfl

theorem char_of_ofChar? {c : Char} {q : Quote} (h : ofChar? c = some q) : q.char = c := by
  unfold ofChar? at h
  split at h
  · cases h; simp_all [char]
  · split at h
    · cases h; simp_all [char]
    · cases h

end Quote

/-- A quoted target, as it stands after `from`. -/
structure Literal where
  quote : Quote
  target : Text
  deriving DecidableEq

namespace Literal

def isRelative (l : Literal) : Bool := Target.isRelative l.target

/-- A target that ends in a backslash escapes its closing quote and is left alone. -/
def isEscaped (l : Literal) : Bool := l.target.getLast? == some '\\'

def text (l : Literal) : Text := l.quote.char :: l.target ++ [l.quote.char]

/-- The clause with a new target: the same quotes, one space after `from`. -/
def render (l : Literal) (new : Text) : Text :=
  ['f', 'r', 'o', 'm', ' ', l.quote.char] ++ new ++ [l.quote.char]

end Literal

structure Clause where
  blanks : Text
  literal : Literal
  deriving DecidableEq

namespace Clause

def text (c : Clause) : Text := ['f', 'r', 'o', 'm'] ++ c.blanks ++ c.literal.text

/-- Whether a character goes on a target that was opened by the quote `q`. -/
def inTarget (q c : Char) : Bool := c ≠ q && c ≠ '\n'

/-- The literal that a text starts with, up to its closing quote. -/
def readLiteral? : Text → Option Literal
  | [] => none
  | q :: body =>
    match Quote.ofChar? q with
    | none => none
    | some quote =>
      let target := body.takeWhile (inTarget q)
      if target = [] || (body.drop target.length).head? ≠ some q then none
      else some { quote, target }

/-- The clause that a text starts with. A blank is no quote, so the blanks are all taken. -/
def read? : Text → Option Clause
  | 'f' :: 'r' :: 'o' :: 'm' :: rest =>
    let blanks := rest.takeWhile isBlank
    if blanks = [] then none
    else (readLiteral? (rest.drop blanks.length)).map fun literal => { blanks, literal }
  | _ => none

def recognise (s : Text) : Option (Clause × Nat) :=
  (read? s).map fun c => (c, c.text.length)

theorem text_ne_nil (c : Clause) : c.text ≠ [] := by simp [text]

theorem eq_append_of_readLiteral? {s : Text} {l : Literal} (h : readLiteral? s = some l) :
    ∃ rest, s = l.text ++ rest := by
  cases s with
  | nil => simp [readLiteral?] at h
  | cons q body =>
    rw [readLiteral?] at h
    split at h
    · cases h
    · rename_i quote hq
      dsimp only at h
      split at h
      · cases h
      · rename_i hc
        cases h
        simp only [Bool.or_eq_true, decide_eq_true_eq, not_or, Decidable.not_not] at hc
        obtain ⟨rest, hrest⟩ := List.head?_eq_some_iff.1 hc.2
        refine ⟨rest, ?_⟩
        have hbody := takeWhile_append_drop_length (inTarget q) body
        rw [hrest] at hbody
        simp [Literal.text, Quote.char_of_ofChar? hq, hbody]

theorem eq_append_of_read? {s : Text} {c : Clause} (h : read? s = some c) :
    ∃ rest, s = c.text ++ rest := by
  unfold read? at h
  split at h
  · rename_i rest
    dsimp only at h
    split at h
    · cases h
    · obtain ⟨l, hl, rfl⟩ := Option.map_eq_some_iff.1 h
      obtain ⟨after, hafter⟩ := eq_append_of_readLiteral? hl
      refine ⟨after, ?_⟩
      have hrest := takeWhile_append_drop_length isBlank rest
      rw [hafter] at hrest
      simp [text, hrest]
  · cases h

/-- The pieces of a text put side by side are the text. -/
theorem flatMap_text_scan_recognise (s : Text) :
    (scan recognise s).flatMap (Piece.text text) = s := by
  apply flatMap_text_scan
  intro s c n h
  obtain ⟨d, hd, he⟩ := Option.map_eq_some_iff.1 h
  cases he
  exact ⟨text_ne_nil _, rfl, eq_append_of_read? hd⟩

end Clause

/-- The literals of all from-clauses, from left to right. -/
def literals (s : Text) : List Literal :=
  (scan Clause.recognise s).filterMap fun p => p.found?.map Clause.literal

end ImportAlias
