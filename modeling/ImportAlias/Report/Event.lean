import ImportAlias.Settings

/-!
# Events and summaries

What a run tells while it goes on: that it starts, each file that it changes, and its summary.
-/
namespace ImportAlias

structure Change where
  path : Path
  relative : Text
  count : Nat
  deriving DecidableEq

structure Summary where
  mode : Mode
  root : Path
  dryRun : Bool
  filesScanned : Nat
  filesChanged : Nat
  importsChanged : Nat
  changes : List Change
  deriving DecidableEq

namespace Summary

def start (s : Settings) : Summary :=
  { mode := s.mode, root := s.root, dryRun := s.dryRun, filesScanned := 0, filesChanged := 0
    importsChanged := 0, changes := [] }

def scanned (s : Summary) : Summary := { s with filesScanned := s.filesScanned + 1 }

def record (s : Summary) (c : Change) : Summary :=
  { s with
    filesChanged := s.filesChanged + 1
    importsChanged := s.importsChanged + c.count
    changes := s.changes ++ [c] }

end Summary

inductive Event where
  | start (s : Settings)
  | change (c : Change)
  | finish (s : Summary)
  deriving DecidableEq

end ImportAlias
