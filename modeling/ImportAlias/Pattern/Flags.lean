import ImportAlias.Text.Basic

/-!
# Flags

A flag is switched on and off within a written pattern.
-/
namespace ImportAlias.Pattern

inductive Flag where
  | ignoreCase
  | multiLine
  | dotAll
  | swapGreed
  /-- Sets may hold characters outside ASCII. -/
  | unicode
  /-- Lines may end in a carriage return. -/
  | anyLine
  /-- Blanks and comments do not count. -/
  | spaced
  deriving DecidableEq

def Flag.ofChar? : Char → Option Flag
  | 'i' => some .ignoreCase
  | 'm' => some .multiLine
  | 's' => some .dotAll
  | 'U' => some .swapGreed
  | 'u' => some .unicode
  | 'R' => some .anyLine
  | 'x' => some .spaced
  | _ => none

/-- Flags with their new values. -/
abbrev Switches := List (Flag × Bool)

/-- The flags that say what a part of a pattern means. -/
structure Flags where
  ignoreCase : Bool := false
  multiLine : Bool := false
  dotAll : Bool := false
  swapGreed : Bool := false
  unicode : Bool := true
  anyLine : Bool := false

namespace Flags

def switch (f : Flags) : Flag × Bool → Flags
  | (.ignoreCase, b) => { f with ignoreCase := b }
  | (.multiLine, b) => { f with multiLine := b }
  | (.dotAll, b) => { f with dotAll := b }
  | (.swapGreed, b) => { f with swapGreed := b }
  | (.unicode, b) => { f with unicode := b }
  | (.anyLine, b) => { f with anyLine := b }
  | (.spaced, _) => f

def switchAll (f : Flags) (switches : Switches) : Flags := switches.foldl switch f

end Flags

end ImportAlias.Pattern
