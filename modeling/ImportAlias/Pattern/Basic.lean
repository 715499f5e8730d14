import ImportAlias.Text.Word

/-!
# Search patterns

Search patterns with numbered groups. A pattern says which texts it matches and which way of
matching comes first: the first alternative before the second, more rounds of a greedy repetition
before fewer, fewer rounds of a lazy one before more.

Patterns are put together by `sequence`, `alternatives` and `counted`, which keep them simple: no
sequence in a sequence, no two literals in a row, and alternatives that begin alike share their
beginning.
-/
namespace ImportAlias

/-- A condition on the word characters on the two sides of a place. -/
inductive WordEdge where
  | edge
  | noEdge
  | start
  | stop
  | noWordBefore
  | noWordAfter
  deriving DecidableEq

def WordEdge.holds (before after : Bool) : WordEdge → Bool
  | edge => before != after
  | noEdge => before == after
  | start => !before && after
  | stop => before && !after
  | noWordBefore => !before
  | noWordAfter => !after

/-- A condition on a place in a text, given the characters on its two sides. -/
inductive Look where
  | textStart
  | textEnd
  | lineStart
  | lineEnd
  /-- Lines that may end in a carriage return, a newline, or both together. -/
  | anyLineStart
  | anyLineEnd
  /-- At the edges of words of the characters in a set. -/
  | word (characters : CodeSet) (e : WordEdge)
  deriving DecidableEq

def Look.holds (before? after? : Option Char) : Look → Bool
  | textStart => before?.isNone
  | textEnd => after?.isNone
  | lineStart => before?.all (· = '\n')
  | lineEnd => after?.all (· = '\n')
  | anyLineStart => before?.all fun c => c = '\n' || (c = '\r' && after? ≠ some '\n')
  | anyLineEnd => after?.all fun c => c = '\r' || (c = '\n' && before? ≠ some '\r')
  | word characters e => e.holds (before?.any characters.has) (after?.any characters.has)

inductive Pattern where
  | empty
  /-- A text that is not empty. -/
  | literal (s : Text)
  /-- One of several characters. -/
  | one (set : CodeSet)
  | look (l : Look)
  | seq (first second : Pattern)
  | alt (first second : Pattern)
  /-- At least `least` rounds, and at most `most?` rounds if that is given. -/
  | rounds (least : Nat) (most? : Option Nat) (greedy : Bool) (body : Pattern)
  | group (index : Nat) (body : Pattern)
  deriving DecidableEq

namespace Pattern

/-- The number of characters that every match takes at least, unless a part of the pattern can
match nothing at all. -/
def leastLength? : Pattern → Option Nat
  | empty | look _ => some 0
  | literal s => some s.length
  | one set => if set.isEmpty then none else some 1
  | seq first second => first.leastLength?.bind fun n => second.leastLength?.map (n + ·)
  | alt first second => first.leastLength?.bind fun n => second.leastLength?.map (min n)
  | rounds least _ _ body => body.leastLength?.map (least * ·)
  | group _ body => body.leastLength?

/-- Whether every match takes a character. -/
def takesSome (p : Pattern) : Bool := p.leastLength?.any (0 < ·)

/-- Whether no match takes a character. -/
def takesNone : Pattern → Bool
  | empty | look _ => true
  | literal _ | one _ => false
  | seq first second => first.takesNone && second.takesNone
  | alt first second => first.takesNone && second.takesNone
  | rounds _ most? _ body => most?.isSome && body.takesNone
  | group _ body => body.takesNone

/-- Whether a match can only begin where the text begins. -/
def beginsAtStart : Pattern → Bool
  | look l => l = .textStart
  | seq first second => first.beginsAtStart || (first.takesNone && second.beginsAtStart)
  | alt first second => first.beginsAtStart && second.beginsAtStart
  | rounds least _ _ body => 0 < least && body.beginsAtStart
  | group _ body => body.beginsAtStart
  | _ => false

/-- Whether a match can only end where the text ends. -/
def endsAtEnd : Pattern → Bool
  | look l => l = .textEnd
  | seq first second => second.endsAtEnd || (second.takesNone && first.endsAtEnd)
  | alt first second => first.endsAtEnd && second.endsAtEnd
  | rounds least _ _ body => 0 < least && body.endsAtEnd
  | group _ body => body.endsAtEnd
  | _ => false

/-! Sequences -/

/-- What a pattern asks for one after the other. -/
def parts : Pattern → List Pattern
  | empty => []
  | seq first second => first :: second.parts
  | p => [p]

/-- Puts a part before others; literals are joined. -/
def prepend : Pattern → List Pattern → List Pattern
  | literal s, literal t :: rest => literal (s ++ t) :: rest
  | p, rest => p :: rest

def ofParts : List Pattern → Pattern
  | [] => empty
  | [p] => p
  | p :: rest => seq p (ofParts rest)

def sequence (ps : List Pattern) : Pattern := ofParts ((ps.flatMap parts).foldr prepend [])

/-! Alternatives -/

/-- A set with one member is a literal. -/
def ofSet (s : CodeSet) : Pattern :=
  match s.single? with
  | some c => literal [c]
  | none => one s

def branches : Pattern → List Pattern
  | alt first second => first :: second.branches
  | p => [p]

def ofBranches : List Pattern → Pattern
  | [] => one .empty
  | [p] => p
  | p :: rest => alt p (ofBranches rest)

def singleChar? : Pattern → Option CodeSet
  | literal [c] => some (.char c)
  | _ => none

def set? : Pattern → Option CodeSet
  | one s => some s
  | _ => none

/-- Alternatives that are all single characters, or all sets, are one set. -/
def merged? (ps : List Pattern) : Option CodeSet :=
  ((ps.mapM singleChar?).or (ps.mapM set?)).map .unions

/-- Alternatives whose common beginning is not looked for. -/
def joined (ps : List Pattern) : Pattern :=
  match ps.flatMap branches with
  | [p] => p
  | ps =>
    match merged? ps with
    | some s => ofSet s
    | none => ofBranches ps

def commonStart : List Pattern → List Pattern → List Pattern
  | a :: as, b :: bs => if a = b then a :: commonStart as bs else []
  | _, _ => []

/-- What several sequences begin with. A pattern of one part is no sequence. -/
def sharedStart (ps : List (List Pattern)) : List Pattern :=
  match ps with
  | first :: rest => if ps.all (2 ≤ ·.length) then rest.foldl commonStart first else []
  | [] => []

def alternatives (ps : List Pattern) : Pattern :=
  match ps.flatMap branches with
  | [p] => p
  | ps =>
    match merged? ps with
    | some s => ofSet s
    | none =>
      match sharedStart (ps.map parts) with
      | [] => ofBranches ps
      | start =>
        let rests := ps.map fun p => ofParts (p.parts.drop start.length)
        sequence (start ++ [joined rests])

/-! Repetitions -/

/-- At least `least` rounds, and at most `most?` rounds if that is given. A body that takes nothing
is tried once at most. -/
def counted (least : Nat) (most? : Option Nat) (greedy : Bool) (body : Pattern) : Pattern :=
  let least := if body.takesNone then min least 1 else least
  let most? := if body.takesNone then some (min (most?.getD 1) 1) else most?
  if most? = some 0 then empty
  else if least = 1 && most? = some 1 then body
  else rounds least most? greedy body

end Pattern

end ImportAlias
