import ImportAlias.Text.Control

/-!
# Styled texts

Text with styles. A terminal that takes colour gets the styles as control sequences; anything else
gets the text without control sequences, those that stand in the text itself included.
-/
namespace ImportAlias

structure Style where
  bold : Bool := false
  underlined : Bool := false
  /-- The number of the colour in a control sequence. -/
  colour? : Option Nat := none
  deriving DecidableEq

namespace Style

def code (n : Nat) : Text := '\x1b' :: '[' :: decimal n ++ ['m']

def reset : Text := code 0

def codes (s : Style) : Text :=
  (if s.bold then code 1 else []) ++ (if s.underlined then code 4 else []) ++
    (s.colour?.map code).getD []

end Style

/-- A stretch of text in one style. -/
structure Span where
  text : Text
  style : Style := {}
  deriving DecidableEq

namespace Span

def plain (s : String) : Span := { text := s.toList }

def coloured (s : Span) : Text :=
  if s.style = {} then s.text else s.style.codes ++ s.text ++ Style.reset

end Span

abbrev Styled := List Span

namespace Styled

def coloured (s : Styled) : Text := s.flatMap Span.coloured

/-- What is written where colour is taken or not. -/
def shown (colour : Bool) (s : Styled) : Text :=
  if colour then s.coloured else Control.strip s.coloured

end Styled

end ImportAlias
