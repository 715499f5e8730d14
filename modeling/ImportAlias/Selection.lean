import ImportAlias.Glob
import ImportAlias.Path

/-!
# Selecting entries

Which entries of a directory count: files with a listed extension, and nothing that is ignored by
name. Names are compared as they are shown.
-/
namespace ImportAlias

structure Selection where
  extensions : List Text
  ignored : List Text
  deriving DecidableEq

namespace Selection

def ofExtensions (extensions : List Text) (p : Path) : Bool :=
  match p.fileName? with
  | some name => extensions.any fun e => ('.' :: e).isSuffixOf (Utf8.lossy name)
  | none => false

/-- A pattern also ignores the name that it spells. -/
def ignores (patterns : List Text) (p : Path) : Bool :=
  let name := (p.fileName?.map Utf8.lossy).getD []
  patterns.any fun pattern => name = pattern || Glob.fits pattern name

end Selection

end ImportAlias
