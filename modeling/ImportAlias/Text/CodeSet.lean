import ImportAlias.Text.Basic

/-!
# Sets of characters

Sets of characters by their code points. A set is a list of ranges that rise with a gap between
each two of them, so equal sets have equal lists as far as characters go. Tables of such sets are
written as texts of hexadecimal ranges.
-/
namespace ImportAlias

def hexValue? (c : Char) : Option Nat :=
  if c.isDigit then some (c.toNat - '0'.toNat)
  else if 'a' ≤ c && c ≤ 'f' then some (c.toNat - 'a'.toNat + 10)
  else if 'A' ≤ c && c ≤ 'F' then some (c.toNat - 'A'.toNat + 10)
  else none

/-- The number that hexadecimal digits spell. -/
def hexNumber (s : Text) : Nat := s.foldl (fun n c => 16 * n + (hexValue? c).getD 0) 0

/-- A range of code points, first and last included. -/
abbrev CodeRange := Nat × Nat

structure CodeSet where
  ranges : List CodeRange
  deriving DecidableEq

namespace CodeSet

def lastCode : Nat := 0x10FFFF

def empty : CodeSet := ⟨[]⟩

def all : CodeSet := ⟨[(0, lastCode)]⟩

def range (first last : Nat) : CodeSet := ⟨[(first, last)]⟩

def char (c : Char) : CodeSet := range c.toNat c.toNat

/-- Because the ranges rise, the search ends at the first one that starts above the code. -/
def holdsIn : List CodeRange → Nat → Bool
  | [], _ => false
  | (first, last) :: rest, n => first ≤ n && (n ≤ last || holdsIn rest n)

def holds (s : CodeSet) (n : Nat) : Bool := holdsIn s.ranges n

def has (s : CodeSet) (c : Char) : Bool := s.holds c.toNat

def isEmpty (s : CodeSet) : Bool := s.ranges.isEmpty

def isAscii (s : CodeSet) : Bool := s.ranges.all (·.2 < 128)

/-- The only member, if there is just one. -/
def single? (s : CodeSet) : Option Char :=
  match s.ranges with
  | [(first, last)] => if first = last then some (Char.ofNat first) else none
  | _ => none

/-- Takes the ranges that overlap or touch the present one into it. The ranges rise by their
starts. -/
def absorb (first last : Nat) : List CodeRange → List CodeRange
  | [] => [(first, last)]
  | (a, b) :: rest =>
    if a ≤ last + 1 then absorb first (max last b) rest else (first, last) :: absorb a b rest

def ofRanges (rs : List CodeRange) : CodeSet :=
  match rs.mergeSort fun a b => a.1 ≤ b.1 with
  | [] => empty
  | (first, last) :: rest => ⟨absorb first last rest⟩

def union (a b : CodeSet) : CodeSet := ofRanges (a.ranges ++ b.ranges)

def unions (sets : List CodeSet) : CodeSet := ofRanges (sets.flatMap ranges)

/-- The gaps from `start` on. -/
def gapsFrom (start : Nat) : List CodeRange → List CodeRange
  | [] => if start ≤ lastCode then [(start, lastCode)] else []
  | (first, last) :: rest =>
    if start < first then (start, first - 1) :: gapsFrom (last + 1) rest
    else gapsFrom (last + 1) rest

/-- A range without the codes at its ends that belong to no character. -/
def trim? (r : CodeRange) : Option CodeRange :=
  let first := if 0xD800 ≤ r.1 && r.1 ≤ 0xDFFF then 0xE000 else r.1
  let last := if 0xD800 ≤ r.2 && r.2 ≤ 0xDFFF then 0xD7FF else r.2
  if first ≤ last then some (first, last) else none

def complement (s : CodeSet) : CodeSet := ⟨(gapsFrom 0 s.ranges).filterMap trim?⟩

def inter (a b : CodeSet) : CodeSet := (a.complement.union b.complement).complement

def diff (a b : CodeSet) : CodeSet := a.inter b.complement

def symmDiff (a b : CodeSet) : CodeSet := (a.diff b).union (b.diff a)

/-- One range of a table: a code, or two codes with a minus sign between them. -/
def readRange (s : Text) : CodeRange :=
  match splitOn '-' s with
  | first :: last :: _ => (hexNumber first, hexNumber last)
  | _ => (hexNumber s, hexNumber s)

/-- The entries of a table, which stand in lines with blanks between them. -/
def entries (table : String) : List Text :=
  ((splitOn '\n' table.toList).flatMap (splitOn ' ')).filter (· ≠ [])

/-- The set that a table gives by its ranges, in rising order. -/
def read (table : String) : CodeSet := ⟨(entries table).map readRange⟩

end CodeSet

end ImportAlias
