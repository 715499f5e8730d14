import ImportAlias.Command.Execute

/-!
# The command on real files

What lies below the root is read into a tree, the command is executed on that tree, and the files
it has written are written out.
-/
namespace ImportAlias.Main

def bytesOf (s : String) : Bytes := Utf8.encode s.toList

def placeOf (path : String) : Place :=
  (splitOn Path.slash (bytesOf path)).filterMap Name.of?

def pathOf (place : Place) : String :=
  String.ofList (Utf8.lossy (Path.slash :: Tree.spell place))

/-- A tree with a directory and everything above it. -/
def withDirs (t : Tree) (place : Place) : Tree :=
  (List.range place.length).foldl (fun t n =>
    let dir := place.take (n + 1)
    if (t.entryAt dir).isNone then t.put dir .dir else t) t

/-- Reads what lies below a directory; only the files that a run would visit are opened. -/
partial def loadBelow (s : Selection) (t : Tree) (place : Place) : IO Tree := do
  let here ← IO.FS.realPath (pathOf place)
  let mut t := t
  for entry in ← here.readDir do
    let some name := Name.of? (bytesOf entry.fileName) | continue
    let next := place ++ [name]
    match (← entry.path.symlinkMetadata).type with
    | .dir => t ← loadBelow s (t.put next .dir) next
    | .symlink => t := t.put next (.link [])
    | _ =>
      let wanted := Selection.ofExtensions s.extensions ⟨name.bytes⟩
      let content ← if wanted then IO.FS.readBinFile entry.path else pure .empty
      t := t.put next (.file content.toList)
  return t

/-- Adds what the next part of a path leads to, a link as a link to where it ends. -/
def enter (t : Tree) (place : Place) (part : Bytes) : IO (Option (Tree × Place)) := do
  let some name := Name.of? part
    | return some (t, if part = Path.dotDot then place.dropLast else place)
  let next := place ++ [name]
  let real? ← (do return some (← IO.FS.realPath (pathOf next)).toString) <|> pure none
  return real?.map fun real =>
    if placeOf real = next then (withDirs t next, next)
    else (withDirs (t.put next (.link (bytesOf real))) (placeOf real), placeOf real)

/-- Reads the tree that a root leads to. -/
def load (cwd : String) (s : Settings) : IO Tree := do
  let mut t := Tree.empty .usual (placeOf cwd)
  let mut place := if s.root.isAbsolute then [] else placeOf cwd
  for part in splitOn Path.slash s.root.bytes do
    let some (entered, next) ← enter t place part | return t
    t := entered
    place := next
  let here ← IO.FS.realPath (pathOf place)
  if ← here.isDir then loadBelow s.selection t place else return t.put place (.file [])

def environment : IO Command.Environment := do
  let names := ["NO_COLOR", "FORCE_COLOR", "CLICOLOR_FORCE", "TERM", "RUST_LOG", "RUST_LOG_STYLE"]
  names.filterMapM fun name => do
    return (← IO.getEnv name).map fun value => (name.toList, value.toList)

def writeOut (t : Tree) (place : Place) : IO Unit := do
  if let some (.file content) := t.entryAt place then
    IO.FS.writeBinFile (pathOf place) ⟨content.toArray⟩

end ImportAlias.Main

open ImportAlias in
def main (args : List String) : IO UInt32 := do
  let args := args.map Main.bytesOf
  let cwd := (← IO.currentDir).toString
  let tree ← match Command.readArguments args with
    | .ok options => Main.load cwd options.settings
    | .error _ => pure (Tree.empty .usual (Main.placeOf cwd))
  let stdout ← IO.getStdout
  let result := Command.execute (← stdout.isTty) (← Main.environment) args tree
  result.fresh.forM (Main.writeOut result.tree)
  stdout.putStr (String.ofList result.stdout)
  (← IO.getStderr).putStr (String.ofList result.stderr)
  return UInt32.ofNat result.exit
