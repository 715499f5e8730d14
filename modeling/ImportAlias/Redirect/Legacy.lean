import ImportAlias.Clause

/-!
# Legacy clauses

Clauses with a legacy target: the shared types or the database client, named by a relative path or
by the alias. The closing quote need not be the opening one.
-/
namespace ImportAlias

/-- How a legacy target leads to the top folder. -/
inductive Legacy.Way where
  | climbing
  | aliased
  deriving DecidableEq

inductive Legacy.Package where
  | types
  | supabase
  deriving DecidableEq

structure Legacy where
  way : Legacy.Way
  package : Legacy.Package
  deriving DecidableEq

namespace Legacy

/-- The length of the run of `./` and `../` that a text starts with. -/
def climb : Text → Nat
  | '.' :: '.' :: '/' :: rest => climb rest + 3
  | '.' :: '/' :: rest => climb rest + 2
  | _ => 0

/-- How much of the start of a text is a way to the top folder. A climb takes all the steps that
there are, since no package starts with a dot. -/
def Way.size? (s : Text) : Way → Option Nat
  | climbing => if climb s = 0 then none else some (climb s)
  | aliased => if ['@', '/'].isPrefixOf s then some 2 else none

def Package.name : Package → Text
  | types => ['t', 'y', 'p', 'e', 's']
  | supabase => ['s', 'u', 'p', 'a', 'b', 'a', 's', 'e']

/-- The database client may stand in the folder `lib`. -/
def Package.folder (s : Text) : Package → Nat
  | types => 0
  | supabase => if ['l', 'i', 'b', '/'].isPrefixOf s then 4 else 0

def Package.size? (s : Text) (p : Package) : Option Nat :=
  let folder := p.folder s
  if p.name.isPrefixOf (s.drop folder) then some (folder + p.name.length) else none

def size? (l : Legacy) (s : Text) : Option Nat := do
  let way ← l.way.size? s
  let package ← l.package.size? (s.drop way)
  pure (way + package)

/-- The literal that a text starts with: its opening quote, and its length with both quotes. -/
def readLiteral? (l : Legacy) : Text → Option (Quote × Nat)
  | [] => none
  | q :: body => do
    let quote ← Quote.ofChar? q
    let size ← l.size? body
    let _ ← Quote.ofChar? (← (body.drop size).head?)
    pure (quote, size + 2)

/-- The clause that a text starts with. A blank is no quote, so the blanks are all taken. -/
def recognise (l : Legacy) : Text → Option (Quote × Nat)
  | 'f' :: 'r' :: 'o' :: 'm' :: rest =>
    let blanks := rest.takeWhile isBlank
    if blanks = [] then none
    else (l.readLiteral? (rest.drop blanks.length)).map fun (quote, size) =>
      (quote, blanks.length + size + 4)
  | _ => none

def all : List Legacy :=
  [⟨.climbing, .types⟩, ⟨.aliased, .types⟩, ⟨.climbing, .supabase⟩, ⟨.aliased, .supabase⟩]

end Legacy

end ImportAlias
