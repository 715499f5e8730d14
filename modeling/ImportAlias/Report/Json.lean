import ImportAlias.Report.Event

/-!
# The report for programs

One JSON object, written when the run is over. Each member stands on a line of its own, two blanks
deeper than what holds it.
-/
namespace ImportAlias

inductive Json where
  | bool (b : Bool)
  | number (n : Nat)
  | text (t : Text)
  | list (items : List Json)
  | object (members : List (Text × Json))

namespace Json

def hexDigit (n : Nat) : Char := (Nat.toDigits 16 n).headD '0'

/-- Quotes, backslashes and control characters are escaped, and nothing else. -/
def escape (c : Char) : Text :=
  if c = '"' then ['\\', '"']
  else if c = '\\' then ['\\', '\\']
  else if c = '\x08' then ['\\', 'b']
  else if c = '\t' then ['\\', 't']
  else if c = '\n' then ['\\', 'n']
  else if c = '\x0c' then ['\\', 'f']
  else if c = '\r' then ['\\', 'r']
  else if c.toNat < 0x20 then
    ['\\', 'u', '0', '0', hexDigit (c.toNat / 16), hexDigit (c.toNat % 16)]
  else [c]

def quoted (t : Text) : Text := '"' :: t.flatMap escape ++ ['"']

def indent (depth : Nat) : Text := '\n' :: List.replicate (2 * depth) ' '

/-- Items between brackets, each on its own line. -/
def block (first last : Char) (depth : Nat) : List Text → Text
  | [] => [first, last]
  | items =>
    first :: joinWith ',' (items.map (indent (depth + 1) ++ ·)) ++ indent depth ++ [last]

mutual

def render (depth : Nat) : Json → Text
  | bool b => if b then "true".toList else "false".toList
  | number n => decimal n
  | text t => quoted t
  | list items => block '[' ']' depth (renderItems (depth + 1) items)
  | object members => block '\x7b' '\x7d' depth (renderMembers (depth + 1) members)

def renderItems (depth : Nat) : List Json → List Text
  | [] => []
  | item :: rest => render depth item :: renderItems depth rest

def renderMembers (depth : Nat) : List (Text × Json) → List Text
  | [] => []
  | (name, value) :: rest =>
    (quoted name ++ ": ".toList ++ render depth value) :: renderMembers depth rest

end

end Json

namespace Change

/-- A path that is no text cannot be written. -/
def toJson? (c : Change) : Option Json := do
  let path ← Utf8.decode? c.path.bytes
  pure (.object
    [("path".toList, .text path),
      ("relative_path".toList, .text c.relative),
      ("rewrites".toList, .number c.count)])

end Change

namespace Summary

def toJson? (s : Summary) : Option Json := do
  let root ← Utf8.decode? s.root.bytes
  let changes ← s.changes.mapM Change.toJson?
  pure (.object
    [("mode".toList, .text s.mode.name),
      ("root".toList, .text root),
      ("dry_run".toList, .bool s.dryRun),
      ("files_scanned".toList, .number s.filesScanned),
      ("files_changed".toList, .number s.filesChanged),
      ("imports_rewritten".toList, .number s.importsChanged),
      ("changed".toList, .list changes)])

end Summary

namespace Json

def invalidPath : Text := "path contains invalid UTF-8 characters".toList

/-- Nothing is written before the summary, and nothing at all if it cannot be. -/
def report : Event → Except Text Text
  | .finish s =>
    match s.toJson? with
    | some json => .ok (json.render 0 ++ ['\n'])
    | none => .error invalidPath
  | _ => .ok []

end Json

end ImportAlias
