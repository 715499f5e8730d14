import ImportAlias.Text.Utf8

/-!
# Texts without terminal control

Escape sequences and control characters are taken out, and what a terminal would print is left, with
tabs, line breaks and form feeds. A tab or line break within a sequence is printed with the text
after it; the sequence goes on at the next control character.
-/
namespace ImportAlias.Control

/-- Where in a control sequence a text stands. -/
inductive State where
  | plain
  | escape
  /-- After an escape with a space or punctuation. -/
  | escapeMore
  /-- In a sequence that starts with `[`. -/
  | sequence
  /-- Before the data of a device string: at its start, in its numbers, behind them. -/
  | deviceStart
  | deviceNumbers
  | deviceMore
  | deviceData
  /-- In a command to the operating system. -/
  | command
  /-- In a string that no terminal looks at. -/
  | unused
  deriving DecidableEq

def isLineBlank (c : Char) : Bool := c = '\t' || c = '\n' || c = '\x0c' || c = '\r'

/-- Whether `c` has a code between two bounds, both included. -/
def within (c : Char) (first last : Nat) : Bool := first ≤ c.toNat && c.toNat ≤ last

def isPrintable (c : Char) : Bool := (32 ≤ c.toNat && c.toNat ≠ 127) || isLineBlank c

/-- Whether the byte that closes strings is among the bytes of a character. -/
def hasTerminator (c : Char) : Bool := (Utf8.encode [c]).contains 0x9c

def afterEscape (c : Char) : State :=
  if within c 0x20 0x2f then .escapeMore
  else match c with
    | '[' => .sequence
    | ']' => .command
    | 'P' => .deviceStart
    | 'X' | '^' | '_' => .unused
    | _ => if within c 0x30 0x7e then .plain else .escape

/-- The state after a character that is not printed. -/
def next (c : Char) : State → State
  | .plain => .plain
  | .escape => afterEscape c
  | .escapeMore => if within c 0x30 0x7e then .plain else .escapeMore
  | .sequence => if within c 0x40 0x7e then .plain else .sequence
  | .deviceStart =>
    if within c 0x20 0x2f then .deviceMore
    else if within c 0x30 0x3f then .deviceNumbers
    else if within c 0x40 0x7e then .deviceData
    else .deviceStart
  | .deviceNumbers =>
    if within c 0x20 0x2f then .deviceMore
    else if within c 0x3c 0x7e then .deviceData
    else .deviceNumbers
  | .deviceMore => if within c 0x30 0x7e then .deviceData else .deviceMore
  | .deviceData => if hasTerminator c then .plain else .deviceData
  | .command => if c = '\x07' then .plain else .command
  | .unused => if hasTerminator c then .plain else .unused

/-- Line breaks interrupt a sequence; in strings they are part of it. -/
def isPrinted (c : Char) : State → Bool
  | .plain => isPrintable c
  | .escape | .escapeMore | .sequence => isLineBlank c
  | _ => false

/-- Whether `c` is printed after a text that ended in a state. As long as printing goes on, only
`isPrintable` counts. -/
def shows (printing : Bool) (st : State) (c : Char) : Bool :=
  if printing then isPrintable c else isPrinted c st

/-- Printing leaves the state alone, save that a character outside ASCII ends every sequence. -/
def afterPrinted (c : Char) (st : State) : State := if c.toNat < 128 then st else .plain

def stripFrom : Bool → State → Text → Text
  | _, _, [] => []
  | printing, st, c :: rest =>
    if c = '\x1b' then stripFrom false .escape rest
    else if c = '\x18' || c = '\x1a' then stripFrom false .plain rest
    else if shows printing st c then c :: stripFrom true (afterPrinted c st) rest
    else stripFrom false (next c st) rest

def strip (s : Text) : Text := stripFrom false .plain s

end ImportAlias.Control
