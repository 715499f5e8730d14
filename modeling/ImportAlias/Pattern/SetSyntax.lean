import ImportAlias.Pattern.Flags
import ImportAlias.Pattern.Flaw
import ImportAlias.Text.Word

/-!
# Sets of characters as they are written

What is written for a set of characters, and which set it is under given flags. Case is ignored
before a set is negated and before two sets are compared. Where sets may not go beyond ASCII, one
that does is a flaw, since it could match a part of a character.
-/
namespace ImportAlias.Pattern

/-- A character as it is written; one that is given by two hexadecimal digits stands for a byte
where sets may not go beyond ASCII. -/
structure SpelledChar where
  char : Char
  isByte : Bool := false
  span : Span
  deriving DecidableEq

namespace SpelledChar

/-- A byte that is not a character of its own is a flaw. -/
def check (f : Flags) (c : SpelledChar) : Except Flaw Char :=
  if !f.unicode && c.isByte && 128 ≤ c.char.toNat then c.span.flawed .notText else .ok c.char

/-- The code of a member of a set. -/
def code (f : Flags) (c : SpelledChar) : Except Flaw Nat := do
  let char ← c.check f
  if !f.unicode && 128 ≤ char.toNat then c.span.flawed .unicodeNotAllowed else pure char.toNat

end SpelledChar

/-- Sets that have a letter of their own. -/
inductive Shorthand where
  | blank
  | digit
  | word
  deriving DecidableEq

def Shorthand.set (unicode : Bool) : Shorthand → CodeSet
  | blank => if unicode then .blank else .asciiBlank
  | digit => if unicode then .digit else .asciiDigit
  | word => if unicode then .word else .asciiWord

inductive SetOperation where
  | inter
  | diff
  | symmDiff
  deriving DecidableEq

def SetOperation.apply : SetOperation → CodeSet → CodeSet → CodeSet
  | inter => .inter
  | diff => .diff
  | symmDiff => .symmDiff

/-- A property, with a value if one is asked for. -/
structure PropertyQuery where
  name : Text
  value? : Option Text := none
  deriving DecidableEq

def PropertyQuery.find (q : PropertyQuery) : Except Property.Fault CodeSet :=
  match q.value? with
  | none => Property.named q.name
  | some value => Property.withValue q.name value

inductive SetSyntax where
  | none
  | char (c : SpelledChar)
  | range (first last : SpelledChar)
  | shorthand (s : Shorthand) (negated : Bool) (span : Span)
  | listed (ranges : List CodeRange) (negated : Bool) (span : Span)
  | property (q : PropertyQuery) (negated : Bool) (span : Span)
  | union (first second : SetSyntax)
  | operation (o : SetOperation) (left right : SetSyntax)
  | bracket (negated : Bool) (inside : SetSyntax) (span : Span)
  deriving DecidableEq

namespace SetSyntax

def fold (f : Flags) (s : CodeSet) : CodeSet :=
  if !f.ignoreCase then s
  else if f.unicode then s.ignoringCase else s.ignoringAsciiCase

def negate (negated : Bool) (s : CodeSet) : CodeSet := if negated then s.complement else s

/-- Refuses a set that goes beyond ASCII where that is not allowed. -/
def check (f : Flags) (span : Span) (s : CodeSet) : Except Flaw CodeSet :=
  if f.unicode || s.isAscii then .ok s else span.flawed .notText

def propertyFlaw : Property.Fault → Flaw.Kind
  | .unknownName => .unknownProperty
  | .unknownValue => .unknownPropertyValue

def value (f : Flags) : SetSyntax → Except Flaw CodeSet
  | none => .ok .empty
  | char c => do
    let n ← c.code f
    pure (.range n n)
  | range first last => do
    let a ← first.code f
    let b ← last.code f
    pure (.range a b)
  | shorthand s negated span => check f span (negate negated (s.set f.unicode))
  | listed ranges negated span => check f span (negate negated (fold f ⟨ranges⟩))
  | property q negated span =>
    if !f.unicode then span.flawed .unicodeNotAllowed
    else match q.find with
      | .ok s => .ok (negate negated (fold f s))
      | .error e => span.flawed (propertyFlaw e)
  | union first second => do
    let a ← first.value f
    let b ← second.value f
    pure (a.union b)
  | operation o left right => do
    let a ← left.value f
    let b ← right.value f
    pure (o.apply (fold f a) (fold f b))
  | bracket negated inside span => do
    let s ← inside.value f
    check f span (negate negated (fold f s))

end SetSyntax

end ImportAlias.Pattern
