import ImportAlias.Text.CodeSet
import ImportAlias.Text.Utf8

/-!
# Ranges of bytes

The bytes of the characters in a set. The characters of a range are the texts whose bytes lie, one
after the other, in given ranges of bytes, once the range is cut in such a way that below the first
byte in which its ends differ it goes through all bytes.
-/
namespace ImportAlias

/-- A range of bytes, first and last included. -/
abbrev ByteRange := Nat × Nat

namespace CodeRange

/-- Characters with equally many bytes, from the shortest to the longest. Between the third and the
fourth range lie the codes that belong to no character. -/
def equallyLong : List CodeRange :=
  [(0, 0x7F), (0x80, 0x7FF), (0x800, 0xD7FF), (0xE000, 0xFFFF), (0x10000, CodeSet.lastCode)]

def meet? (r s : CodeRange) : Option CodeRange :=
  let first := max r.1 s.1
  let last := min r.2 s.2
  if first ≤ last then some (first, last) else none

/-- Cuts a range before the block that its end leaves unfinished. -/
def cutEnd (block : Nat) (r : CodeRange) : List CodeRange :=
  let last := r.2 - r.2 % block
  if r.1 / block = r.2 / block || r.2 % block + 1 = block then [r] else [(r.1, last - 1), (last, r.2)]

/-- Cuts a range that goes through several blocks, so that each part either lies in one block or
goes through whole blocks. -/
def cut (block : Nat) (r : CodeRange) : List CodeRange :=
  let next := r.1 - r.1 % block + block
  if r.1 / block = r.2 / block then [r]
  else if r.1 % block = 0 then cutEnd block r
  else (r.1, next - 1) :: cutEnd block (next, r.2)

/-- The byte ranges of a part that need not be cut any more. -/
def bytes (r : CodeRange) : List ByteRange :=
  let encode (n : Nat) : List Nat := (Utf8.encode [Char.ofNat n]).map UInt8.toNat
  (encode r.1).zip (encode r.2)

/-- The parts of a range of equally long characters. Single bytes need no cut. -/
def cuts (r : CodeRange) : List CodeRange :=
  let cutAll (parts : List CodeRange) (block : Nat) : List CodeRange := parts.flatMap (cut block)
  if r.2 < 128 then [r] else [64, 64 * 64, 64 * 64 * 64].foldl cutAll [r]

/-- The byte ranges of the characters of a range, part by part in rising order. -/
def sequences (r : CodeRange) : List (List ByteRange) :=
  ((equallyLong.filterMap (meet? r)).flatMap cuts).map bytes

end CodeRange

/-- The byte ranges of the characters in a set. -/
def CodeSet.sequences (s : CodeSet) : List (List ByteRange) := s.ranges.flatMap CodeRange.sequences

end ImportAlias
