import ImportAlias.Tree.Access

/-!
# Errors

What stops a run, and how it is told.
-/
namespace ImportAlias

inductive Error where
  | rootMissing (root : Path)
  | walk (p : Path) (fault : Fault)
  | read (p : Path) (fault : Fault)
  | notText (p : Path)
  | write (p : Path) (fault : Fault)
  | output (reason : Text)
  deriving DecidableEq

namespace Error

def quoted (p : Path) : Text := '\'' :: p.display ++ ['\'']

def message : Error → Text
  | rootMissing root =>
    "cannot access ".toList ++ quoted root ++ ": No such file or directory".toList
  | walk p fault =>
    "failed to walk source tree: ".toList ++ p.display ++ ": IO error for operation on ".toList ++
      p.display ++ ": ".toList ++ fault.message
  | read p fault => "failed to read ".toList ++ quoted p ++ ": ".toList ++ fault.message
  | notText p => quoted p ++ " is not valid UTF-8 text".toList
  | write p fault => "failed to write ".toList ++ quoted p ++ ": ".toList ++ fault.message
  | output reason => "error writing output: ".toList ++ reason

end Error

end ImportAlias
