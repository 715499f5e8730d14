import ImportAlias.Text.CharRange

/-!
# Glob patterns

Glob patterns over names: `?`, `*`, `**` as a whole path part, and bracketed sets. There is no
escape character, and a pattern with a misplaced `**` or an unclosed set is no pattern at all.
-/
namespace ImportAlias

namespace Glob

inductive Token where
  | char (c : Char)
  | anyChar
  | anyText
  | anyParts
  | oneOf (ranges : List CharRange)
  | noneOf (ranges : List CharRange)
  deriving DecidableEq

/-- The ranges between two brackets; a `-` counts only between two characters. -/
def ranges : Text → List CharRange
  | first :: '-' :: last :: rest => ⟨first, last⟩ :: ranges rest
  | c :: rest => ⟨c, c⟩ :: ranges rest
  | [] => []

/-- Splits at the first `]` after the first character, which is always a member. -/
def untilBracket? : Text → Option (Text × Text)
  | [] => none
  | first :: rest =>
    if rest.contains ']' then
      let members := rest.takeWhile (· ≠ ']')
      some (first :: members, rest.drop (members.length + 1))
    else none

/-- What follows a `[`: the set, and the text after its closing bracket. -/
def bracket? : Text → Option (Token × Text)
  | '!' :: rest => (untilBracket? rest).map fun (members, after) => (.noneOf (ranges members), after)
  | rest => (untilBracket? rest).map fun (members, after) => (.oneOf (ranges members), after)

/-- What follows a run of two stars: they must end a path part, and take its `/` along. -/
def afterParts? : Text → Option Text
  | [] => some []
  | '/' :: rest => some rest
  | _ => none

/-- A second `**` in a row adds nothing; the first two tokens are always kept. -/
def addParts (tokens : List Token) : List Token :=
  match tokens with
  | .anyParts :: _ :: _ => tokens
  | _ => .anyParts :: tokens

/-- Reads the rest of a pattern. `last?` is the character before it, and the tokens made so far
are held with the last one first. Every step takes a character, so the length is fuel enough. -/
def parseFrom : Nat → Option Char → List Token → Text → Option (List Token)
  | _, _, tokens, [] => some tokens.reverse
  | 0, _, _, _ :: _ => none
  | fuel + 1, last?, tokens, c :: rest =>
    match c with
    | '?' => parseFrom fuel (some c) (.anyChar :: tokens) rest
    | '*' =>
      match rest.takeWhile (· = '*') with
      | [] => parseFrom fuel (some c) (.anyText :: tokens) rest
      | [_] =>
        if last? = none || last? = some '/' then
          match afterParts? (rest.drop 1) with
          | some after =>
            parseFrom fuel (some (if rest.drop 1 = [] then '*' else '/')) (addParts tokens) after
          | none => none
        else none
      | _ => none
    | '[' =>
      match bracket? rest with
      | some (token, after) => parseFrom fuel (some ']') (token :: tokens) after
      | none => none
    | _ => parseFrom fuel (some c) (.char c :: tokens) rest

def parse? (pattern : Text) : Option (List Token) :=
  parseFrom pattern.length none [] pattern

/-- Which beginnings of a name are taken by the tokens so far: a mark for every place in the name,
from before its first character to behind its last. -/
abbrev Reach := List Bool

namespace Reach

/-- One character more is taken, if it passes the test. -/
def move (test : Char → Bool) : Text → Reach → Bool → Reach
  | [], _, carried => [carried]
  | _ :: _, [], carried => [carried]
  | c :: s, here :: rest, carried => carried :: move test s rest (here && test c)

/-- Any text more is taken; `seen` says that an earlier place was reached. -/
def spread : Reach → Bool → Reach
  | [], _ => []
  | here :: rest, seen => (here || seen) :: spread rest (here || seen)

/-- Whole path parts are taken: up to a place behind a slash, or to the end. -/
def spreadParts : Text → Reach → Bool → Bool → Reach
  | [], here :: _, seen, _ => [here || seen]
  | _, [], _, _ => []
  | c :: s, here :: rest, seen, behindSlash =>
    (here || (seen && behindSlash)) :: spreadParts s rest (here || seen) (c = '/')

def advance (s : Text) (r : Reach) : Token → Reach
  | .char d => move (· = d) s r false
  | .anyChar => move (fun _ => true) s r false
  | .oneOf rs => move (fun c => rs.any (·.holds c)) s r false
  | .noneOf rs => move (fun c => !rs.any (·.holds c)) s r false
  | .anyText => r.spread false
  | .anyParts => spreadParts s r false false

end Reach

/-- All places are followed side by side, so the work is one pass over the name for each token. -/
def accepts (tokens : List Token) (s : Text) : Bool :=
  let start : Reach := true :: s.map fun _ => false
  (tokens.foldl (Reach.advance s) start).getLast? = some true

/-- Whether a whole name fits a pattern; nothing fits a text that is no pattern. -/
def fits (pattern name : Text) : Bool :=
  match parse? pattern with
  | some tokens => accepts tokens name
  | none => false

end Glob

end ImportAlias
