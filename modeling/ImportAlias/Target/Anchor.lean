import ImportAlias.Text.Basic

/-!
# Anchoring a target

Anchoring a relative target at a known top-level folder: everything before the first segment that
names such a folder gives way to the alias.
-/
namespace ImportAlias.Target

def isRelative (target : Text) : Bool := target.head? == some '.'

def anchor? (importAlias : Text) (folders : List Text) (target : Text) : Option Text :=
  if isRelative target then
    match (splitOn '/' target).dropWhile (!folders.contains ·) with
    | [] => none
    | segments => some (importAlias ++ joinWith '/' segments)
  else none

end ImportAlias.Target
