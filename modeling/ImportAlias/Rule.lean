import ImportAlias.Log
import ImportAlias.Redirect
import ImportAlias.Settings
import ImportAlias.Target.Resolve

/-!
# Rules

The three rule sets as one type, and what a rule set does to the text of a file. Each target that
a rule gives an answer for is logged, also one that comes out as it was.
-/
namespace ImportAlias

inductive Rule where
  | folder (importAlias : Text) (folders : List Text)
  | resolve (importAlias : Text)
  | consolidate (redirect : Redirect)

namespace Rule
open Log

def ofSettings (s : Settings) : Rule :=
  match s.mode with
  | .folder => folder s.importAlias s.folders
  | .resolve => resolve s.importAlias
  | .consolidate => consolidate (.legacy s.sharedTarget)

/-- The record of an answer. -/
def answered (origin : Origin) (shown target new : Text) : Record :=
  ⟨.debug, origin, shown ++ ": ".toList ++ target ++ " -> ".toList ++ new⟩

/-- Asks `newTarget?` for every clause and logs its answers. -/
def substituteLogged (origin : Origin) (shown : Text) (newTarget? : Text → Option Text)
    (given : Text) : Substitution × List Record :=
  let answer (latestFirst : List Record) (l : Literal) : Option Text × List Record :=
    match newTarget? l.target with
    | none => (none, latestFirst)
    | some new => (some new, answered origin shown l.target new :: latestFirst)
  let (s, latestFirst) := substitute answer [] given
  (s, latestFirst.reverse)

/-- Applies a rule to the text of the file that has the path `relative` below the root. -/
def apply (rule : Rule) (relative : Path) (given : Text) : Substitution × List Record :=
  let shown := relative.display
  match rule with
  | folder importAlias folders =>
    substituteLogged .folder shown (Target.anchor? importAlias folders) given
  | resolve importAlias =>
    substituteLogged .resolve shown (Target.resolveWithAlias? importAlias relative) given
  | consolidate redirect =>
    let s := redirect.apply given
    let message :=
      shown ++ ": ".toList ++ decimal s.count ++ " clause(s) -> ".toList ++ redirect.target
    (s, if s.count = 0 then [] else [⟨.debug, .consolidate, message⟩])

end Rule

end ImportAlias
