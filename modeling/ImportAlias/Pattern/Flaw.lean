import ImportAlias.Text.Basic

/-!
# Flaws of a pattern

What can be wrong with a written pattern, and how it is told: under the pattern, its faulty parts
are marked.
-/
namespace ImportAlias.Pattern

inductive Flaw.Kind where
  | escapeInSet
  | descendingRange
  | rangeWithoutChar
  | unclosedSet
  | decimalTooLarge
  | emptyHex
  | notAChar
  | notAHexDigit
  | unfinishedEscape
  | unknownEscape
  | badProperty
  | unclosedWordEdge
  | unknownWordEdge
  | unfinishedWordEdge
  | unicodeNotAllowed
  | notText
  | unknownProperty
  | unknownPropertyValue
  | danglingMinus
  | repeatedFlag
  | repeatedMinus
  | unfinishedFlags
  | unknownFlag
  | repeatedName
  | emptyName
  | badName
  | unfinishedName
  | unclosedGroup
  | unopenedGroup
  | tooDeep
  | descendingCount
  | emptyCount
  | unclosedCount
  | nothingToRepeat
  | backreference
  | lookAround
  | tooLarge
  deriving DecidableEq

def Flaw.Kind.message : Flaw.Kind → String
  | escapeInSet => "invalid escape sequence found in character class"
  | descendingRange => "invalid character class range, the start must be <= the end"
  | rangeWithoutChar => "invalid range boundary, must be a literal"
  | unclosedSet => "unclosed character class"
  | decimalTooLarge => "decimal literal invalid"
  | emptyHex => "hexadecimal literal empty"
  | notAChar => "hexadecimal literal is not a Unicode scalar value"
  | notAHexDigit => "invalid hexadecimal digit"
  | unfinishedEscape => "incomplete escape sequence, reached end of pattern prematurely"
  | unknownEscape => "unrecognized escape sequence"
  | badProperty => "invalid Unicode character class"
  | unclosedWordEdge =>
    "special word boundary assertion is either unclosed or contains an invalid character"
  | unknownWordEdge => "unrecognized special word boundary assertion, " ++
    "valid choices are: start, end, start-half or end-half"
  | unfinishedWordEdge => "found either the beginning of a special word boundary or " ++
    "a bounded repetition on a \\b with an opening brace, but no closing brace"
  | unicodeNotAllowed => "Unicode not allowed here"
  | notText => "pattern can match invalid UTF-8"
  | unknownProperty => "Unicode property not found"
  | unknownPropertyValue => "Unicode property value not found"
  | danglingMinus => "dangling flag negation operator"
  | repeatedFlag => "duplicate flag"
  | repeatedMinus => "flag negation operator repeated"
  | unfinishedFlags => "expected flag but got end of regex"
  | unknownFlag => "unrecognized flag"
  | repeatedName => "duplicate capture group name"
  | emptyName => "empty capture group name"
  | badName => "invalid capture group character"
  | unfinishedName => "unclosed capture group name"
  | unclosedGroup => "unclosed group"
  | unopenedGroup => "unopened group"
  | tooDeep => "exceed the maximum number of nested parentheses/brackets (250)"
  | descendingCount => "invalid repetition count range, the start must be <= the end"
  | emptyCount => "repetition quantifier expects a valid decimal"
  | unclosedCount => "unclosed counted repetition"
  | nothingToRepeat => "repetition operator missing expression"
  | backreference => "backreferences are not supported"
  | lookAround => "look-around, including look-ahead and look-behind, is not supported"
  | tooLarge => "Compiled regex exceeds size limit of 10485760 bytes."

/-- A part of a written pattern, from the character `start` to before `stop`. -/
structure Span where
  start : Nat
  stop : Nat
  deriving DecidableEq

/-- A flaw, where it is, and the earlier part that it is at odds with, if there is one. -/
structure Flaw where
  kind : Flaw.Kind
  span : Span
  earlier? : Option Span := none
  deriving DecidableEq

def Span.flawed {α : Type} (s : Span) (kind : Flaw.Kind) : Except Flaw α :=
  .error { kind, span := s }

namespace Flaw

/-! Lines of a pattern -/

/-- A place by its line and its column, both counted from one. -/
structure Position where
  line : Nat
  column : Nat

def position (pattern : Text) (offset : Nat) : Position :=
  let before := pattern.take offset
  { line := before.count '\n' + 1
    column := (before.reverse.takeWhile (· ≠ '\n')).length + 1 }

/-- A line that was ended by a newline, without the carriage return before it. -/
def dropReturn (line : Text) : Text :=
  if line.getLast? = some '\r' then line.dropLast else line

/-- The lines of a pattern. There is no last line behind a newline. -/
def lines (pattern : Text) : List Text :=
  let all := splitOn '\n' pattern
  let last := (all.getLast?.getD [])
  all.dropLast.map dropReturn ++ if last = [] then [] else [last]

/-- Marks for parts of a line, which rise; `done` columns are behind. -/
def marks (done : Nat) : List (Position × Position) → Text
  | [] => []
  | (start, stop) :: rest =>
    let width := max 1 (stop.column - start.column)
    List.replicate (start.column - 1 - done) ' ' ++ List.replicate width '^' ++
      marks (max done (start.column - 1) + width) rest

def digits (n : Nat) : Text := (toString n).toList

def padded (width n : Nat) : Text := List.replicate (width - (digits n).length) ' ' ++ digits n

/-- The lines with the marks under them. A single line has a margin, several have numbers. -/
def marked (pattern : Text) (parts : List (Position × Position)) : Text :=
  let count := pattern.count '\n' + 1
  let width := (digits count).length
  let margin := List.replicate (if count = 1 then 4 else width + 2) ' '
  let head (n : Nat) : Text := if count = 1 then margin else padded width n ++ ": ".toList
  (lines pattern).zipIdx.flatMap fun (line, i) =>
    match parts.filter (·.1.line = i + 1) with
    | [] => head (i + 1) ++ line ++ ['\n']
    | here => head (i + 1) ++ line ++ '\n' :: margin ++ marks 0 here ++ ['\n']

/-- A part that goes over several lines is not marked but told. -/
def farPart (part : Position × Position) : Text :=
  "on line ".toList ++ digits part.1.line ++ " (column ".toList ++ digits part.1.column ++
    ") through line ".toList ++ digits part.2.line ++ " (column ".toList ++
    digits (part.2.column - 1) ++ ")\n".toList

/-- What is wrong, under the pattern with its faulty parts. A pattern that is only too large is not
shown. -/
def message (f : Flaw) (pattern : Text) : Text :=
  if f.kind = .tooLarge then f.kind.message.toList
  else
    let spans := (f.earlier?.toList ++ [f.span]).mergeSort fun a b => a.start ≤ b.start
    let parts := spans.map fun s => (position pattern s.start, position pattern s.stop)
    let (near, far) := parts.partition fun (start, stop) => start.line = stop.line
    let divider := if pattern.contains '\n' then List.replicate 79 '~' ++ ['\n'] else []
    "regex parse error:\n".toList ++ divider ++ marked pattern near ++ divider ++
      far.flatMap farPart ++ "error: ".toList ++ f.kind.message.toList

end Flaw

end ImportAlias.Pattern
