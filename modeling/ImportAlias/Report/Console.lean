import ImportAlias.Report.Event

/-!
# The report for people

A line at the start, a line for each file, a line at the end.
-/
namespace ImportAlias

structure Console where
  coloured : Bool
  /-- The mode of the run that was started last. -/
  mode : Mode := .folder
  deriving DecidableEq

namespace Console

def absolute (cwd p : Path) : Text := ((Path.absolute? cwd p).getD p).display

def banner (cwd : Path) (s : Settings) : Text :=
  match s.mode with
  | .folder => "Starting import refactor in ".toList ++ absolute cwd s.root
  | .resolve => "Starting robust import refactor in ".toList ++ s.root.display
  | .consolidate => "Consolidating shared imports in ".toList ++ s.root.display

def label : Mode → Text
  | .folder => "Fixed imports in:".toList
  | .resolve => "Refactored:".toList
  | .consolidate => "Updated:".toList

def subject (cwd : Path) (mode : Mode) (c : Change) : Text :=
  match mode with
  | .folder => absolute cwd c.path
  | .resolve => c.relative
  | .consolidate => c.path.display

/-- A text in bold green. -/
def green (t : Text) : Text :=
  "\x1b[0m\x1b[1m\x1b[32m".toList ++ t ++ "\x1b[0m".toList

def closing (s : Summary) : Text :=
  if s.dryRun then
    "Done! (dry run: ".toList ++ decimal s.filesChanged ++ " file(s) would change)".toList
  else "Done!".toList

def line (cwd : Path) (c : Console) : Event → Text
  | .start s => banner cwd s ++ ['\n']
  | .change ch =>
    (if c.coloured then green (label c.mode) else label c.mode) ++
      ' ' :: subject cwd c.mode ch ++ ['\n']
  | .finish s => closing s ++ ['\n']

def step (cwd : Path) (c : Console) (e : Event) : Console × Text :=
  let c := match e with
    | .start s => { c with mode := s.mode }
    | _ => c
  (c, c.line cwd e)

end Console

end ImportAlias
