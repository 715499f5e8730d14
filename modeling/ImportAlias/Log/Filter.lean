import ImportAlias.Log
import ImportAlias.Pattern.Parser
import ImportAlias.Pattern.Search

/-!
# Which records are shown

The filter that decides which log records are shown: directives between commas, and after a slash
a search pattern that a message has to match. What cannot be read is told of and left out.
-/
namespace ImportAlias.Log

/-- Lets levels up to `rank` through, for all modules or for those whose path starts with
`module?`. -/
structure Directive where
  module? : Option Text
  rank : Nat
  deriving DecidableEq

namespace Directive

def weight (d : Directive) : Nat := (d.module?.map List.length).getD 0

def covers (d : Directive) (path : Text) : Bool :=
  match d.module? with
  | some start => start.isPrefixOf path
  | none => true

def upper (t : Text) : Text := t.map Char.toUpper

def rank? (t : Text) : Option Nat :=
  if upper t = "OFF".toList then some 0
  else (Level.all.find? fun l => l.name = upper t).map Level.rank

/-- A directive is a level, a module with a level, or a module alone, which lets all through. -/
def parse (t : Text) : Except Text Directive :=
  match splitOn '=' t with
  | [single] =>
    match rank? single with
    | some rank => .ok { module? := none, rank }
    | none => .ok { module? := some single, rank := Level.trace.rank }
  | [module, level] =>
    let level := trimBlanks level
    if level = [] then .ok { module? := some module, rank := Level.trace.rank }
    else match rank? level with
      | some rank => .ok { module? := some module, rank }
      | none => .error level
  | _ => .error t

/-- A later directive for the same module takes the place of the earlier one. -/
def insert (d : Directive) : List Directive → List Directive
  | [] => [d]
  | e :: rest => if e.module? = d.module? then d :: rest else e :: insert d rest

end Directive

structure Filter where
  directives : List Directive := []
  pattern? : Option Pattern.Machine := none

/-- What is wrong with a filter. -/
inductive Filter.Fault where
  | badDirective (t : Text)
  | tooManySlashes (t : Text)
  | badPattern (pattern : Text) (flaw : Pattern.Flaw)

namespace Filter

def Fault.message : Fault → Text
  | badDirective t => "invalid logging spec '".toList ++ t ++ ['\'']
  | tooManySlashes t => "invalid logging spec '".toList ++ t ++ "' (too many '/'s)".toList
  | badPattern pattern flaw => "invalid regex filter - ".toList ++ flaw.message pattern

def Fault.line (f : Fault) : Text :=
  "warning: ".toList ++ f.message ++ ", ignoring it\n".toList

def addDirective (r : Filter × List Fault) (t : Text) : Filter × List Fault :=
  let t := trimBlanks t
  if t = [] then r
  else match Directive.parse t with
    | .ok d => ({ r.1 with directives := d.insert r.1.directives }, r.2)
    | .error part => (r.1, r.2 ++ [.badDirective part])

def readDirectives (t : Text) : Filter × List Fault := (splitOn ',' t).foldl addDirective ({}, [])

def parse (t : Text) : Filter × List Fault :=
  match splitOn '/' t with
  | [directives] => readDirectives directives
  | [directives, pattern] =>
    let (f, faults) := readDirectives directives
    match Pattern.parse pattern with
    | .ok p => ({ f with pattern? := some (.ofPattern p) }, faults)
    | .error flaw => (f, faults ++ [.badPattern pattern flaw])
  | _ => ({}, [.tooManySlashes t])

/-- The directive with the longest module among those that cover a path; of two, the later. -/
def best? (path : Text) (directives : List Directive) : Option Directive :=
  directives.foldl (fun best? d =>
    if d.covers path then
      match best? with
      | some b => if b.weight ≤ d.weight then some d else some b
      | none => some d
    else best?) none

/-- Without directives only errors are shown. -/
def rankFor (f : Filter) (path : Text) : Nat :=
  if f.directives = [] then Level.error.rank
  else ((best? path f.directives).map Directive.rank).getD 0

def shows (f : Filter) (r : Record) : Bool :=
  r.level.rank ≤ f.rankFor r.origin.modulePath && f.pattern?.all (·.isIn r.message)

end Filter

end ImportAlias.Log
