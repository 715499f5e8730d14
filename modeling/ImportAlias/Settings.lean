import ImportAlias.Selection

/-!
# Settings

What a run is asked to do, with the values it has unless told otherwise.
-/
namespace ImportAlias

/-- The rule set of a run. -/
inductive Mode where
  | folder
  | resolve
  | consolidate
  deriving DecidableEq

namespace Mode

def all : List Mode := [folder, resolve, consolidate]

def name : Mode → Text
  | folder => "folder".toList
  | resolve => "resolve".toList
  | consolidate => "consolidate".toList

/-- Case, where it is ignored, is that of the Latin letters. -/
def ofName? (ignoreCase : Bool) (t : Text) : Option Mode :=
  all.find? fun m => if ignoreCase then m.name = t.map Char.toLower else m.name = t

end Mode

structure Settings where
  root : Path := Path.ofText "apps/web/src".toList
  mode : Mode := .folder
  importAlias : Text := "@/".toList
  folders : List Text :=
    ["components", "contexts", "hooks", "utils", "services", "pages", "constants", "lib",
      "types", "data"].map String.toList
  sharedTarget : Text := "@tgt/shared".toList
  extensions : List Text := ["ts", "tsx"].map String.toList
  ignored : List Text := []
  dryRun : Bool := false
  deriving DecidableEq

namespace Settings

def selection (s : Settings) : Selection := { extensions := s.extensions, ignored := s.ignored }

end Settings

end ImportAlias
