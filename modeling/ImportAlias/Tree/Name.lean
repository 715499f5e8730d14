import ImportAlias.Path

/-!
# Names

The names that a directory can hold: not empty, without a slash or a null byte, and neither `.`
nor `..`, which every directory has by itself. Names are ordered by their bytes, and the beginning
of a name comes before the name.
-/
namespace ImportAlias

def isName (b : Bytes) : Bool :=
  !Path.isTrivial b && b != Path.dotDot && !b.contains Path.slash && !b.contains 0

structure Name where
  bytes : Bytes
  valid : isName bytes = true
  deriving DecidableEq

namespace Name

def of? (b : Bytes) : Option Name := if h : isName b = true then some ⟨b, h⟩ else none

theorem of?_bytes (n : Name) : of? n.bytes = some n := by
  simp [of?, n.valid]

theorem bytes_of_of? {b : Bytes} {n : Name} (h : of? b = some n) : n.bytes = b := by
  unfold of? at h
  split at h
  · cases h; rfl
  · cases h

theorem eq_of_bytes_eq {a b : Name} (h : a.bytes = b.bytes) : a = b := by
  cases a; cases b; cases h; rfl

instance : LT Name := ⟨fun a b => a.bytes < b.bytes⟩

instance (a b : Name) : Decidable (a < b) := inferInstanceAs (Decidable (a.bytes < b.bytes))

theorem lt_irrefl (a : Name) : ¬ a < a := List.lt_irrefl a.bytes

theorem lt_trans {a b c : Name} (hab : a < b) (hbc : b < c) : a < c := List.lt_trans hab hbc

/-- Of two different names one comes before the other. -/
theorem lt_of_not_lt_of_ne {a b : Name} (h : ¬ a < b) (hne : b ≠ a) : b < a := by
  refine Decidable.byContradiction fun hn => hne (eq_of_bytes_eq ?_)
  exact List.le_antisymm (List.not_lt.1 h) (List.not_lt.1 hn)

end Name

end ImportAlias
