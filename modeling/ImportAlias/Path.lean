import ImportAlias.Text.Utf8

/-!
# File paths

File paths are bytes with `/` between their parts. A path is read as components: repeated and
trailing separators and `.` parts do not count, except a `.` at the very start of a relative path.
Operations that give a path back keep the spelling of what they leave.
-/
namespace ImportAlias

structure Path where
  bytes : Bytes
  deriving DecidableEq

inductive Component where
  | root
  | here
  | up
  | name (n : Bytes)
  deriving DecidableEq

namespace Path

def slash : UInt8 := 47

def dot : Bytes := [46]

def dotDot : Bytes := [46, 46]

def ofText (t : Text) : Path := ⟨Utf8.encode t⟩

/-- The path as it is shown to people. -/
def display (p : Path) : Text := Utf8.lossy p.bytes

/-- A part that does not count as a component. -/
def isTrivial (part : Bytes) : Bool := part == [] || part == dot

def isAbsolute (p : Path) : Bool := p.bytes.head? == some slash

/-- The component that only the start of a path can hold: the root, or a leading `.`. -/
def head? (p : Path) : Option Component :=
  if p.isAbsolute then some .root
  else if (splitOn slash p.bytes).head? = some dot then some .here
  else none

/-- The parts after the head, trivial ones included. -/
def body (p : Path) : List Bytes :=
  splitOn slash (if p.head?.isSome then p.bytes.drop 1 else p.bytes)

def component (part : Bytes) : Component := if part = dotDot then .up else .name part

def components (p : Path) : List Component :=
  p.head?.toList ++ (p.body.filter (!isTrivial ·)).map component

/-- Parts without the trivial ones at their end. -/
def trimEnd (parts : List Bytes) : List Bytes :=
  (parts.reverse.dropWhile isTrivial).reverse

/-- The head and some parts, spelled as in `p`. -/
def withBody (p : Path) (parts : List Bytes) : Path :=
  ⟨(if p.head?.isSome then p.bytes.take 1 else []) ++ joinWith slash parts⟩

/-- The path without its last component. The root and the empty path have no parent. -/
def parent? (p : Path) : Option Path :=
  match trimEnd p.body with
  | [] => if p.head? = some .here then some ⟨[]⟩ else none
  | parts => some (p.withBody (trimEnd parts.dropLast))

/-- The last component, if it is a name. -/
def fileName? (p : Path) : Option Bytes :=
  match (trimEnd p.body).getLast? with
  | some part => if part = dotDot then none else some part
  | none => none

/-- Drops parts until `n` components are gone. -/
def dropComponents : Nat → List Bytes → List Bytes
  | 0, parts => parts
  | _ + 1, [] => []
  | n + 1, part :: rest =>
    if isTrivial part then dropComponents (n + 1) rest else dropComponents n rest

/-- What is left of a path below `base`, if its first components are those of `base`. -/
def below? (p base : Path) : Option Path :=
  let start := base.components
  if start.isPrefixOf p.components then
    if start = [] then some (p.withBody (trimEnd p.body))
    else
      let rest := dropComponents (start.length - p.head?.toList.length) p.body
      some ⟨joinWith slash (trimEnd (rest.dropWhile isTrivial))⟩
  else none

/-- The path of the entry `n` in the directory `p`. -/
def child (p : Path) (n : Bytes) : Path :=
  if p.bytes = [] || p.bytes.getLast? = some slash then ⟨p.bytes ++ n⟩
  else ⟨p.bytes ++ slash :: n⟩

/-- The path seen from the root, for the working directory `cwd`; nothing is looked up, so `..`
stays. Two slashes at the start stay two, and a slash at the end stays. -/
def absolute? (cwd p : Path) : Option Path :=
  if p.bytes = [] then none
  else
    let start : Path :=
      if p.isAbsolute then
        if p.bytes.take 2 = [slash, slash] && p.bytes.take 3 ≠ [slash, slash, slash] then
          ⟨[slash, slash]⟩
        else ⟨[slash]⟩
      else cwd
    let joined := (p.body.filter (!isTrivial ·)).foldl child start
    some (if p.bytes.getLast? = some slash then joined.child [] else joined)

end Path

end ImportAlias
