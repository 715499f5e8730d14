import ImportAlias.Text.Styled

/-!
# The log

Log records, and how a line of the log looks.
-/
namespace ImportAlias.Log

inductive Level where
  | error
  | warn
  | info
  | debug
  | trace
  deriving DecidableEq

namespace Level

def all : List Level := [error, warn, info, debug, trace]

def name : Level → Text
  | error => "ERROR".toList
  | warn => "WARN".toList
  | info => "INFO".toList
  | debug => "DEBUG".toList
  | trace => "TRACE".toList

/-- How much has to be let through before this level is. -/
def rank : Level → Nat
  | error => 1
  | warn => 2
  | info => 3
  | debug => 4
  | trace => 5

def style : Level → Style
  | error => { bold := true, colour? := some 31 }
  | warn => { colour? := some 33 }
  | info => { colour? := some 32 }
  | debug => { colour? := some 34 }
  | trace => { colour? := some 36 }

end Level

/-- The part of the program that speaks. -/
inductive Origin where
  | runner
  | folder
  | resolve
  | consolidate
  deriving DecidableEq

def Origin.modulePath : Origin → Text
  | runner => "importfix::runner".toList
  | folder => "importfix::rules::folder".toList
  | resolve => "importfix::rules::resolve".toList
  | consolidate => "importfix::rules::consolidate".toList

structure Record where
  level : Level
  origin : Origin
  message : Text
  deriving DecidableEq

namespace Record

/-- Lines after the first are indented by four. -/
def indent (message : Text) : Text :=
  message.flatMap fun c => if c = '\n' then "\n    ".toList else [c]

def bracket (c : Char) : Span := { text := [c], style := { colour? := some 90 } }

/-- The level takes five places. -/
def line (r : Record) : Styled :=
  let level := r.level.name ++ List.replicate (5 - r.level.name.length) ' '
  [bracket '[', { text := level, style := r.level.style }, { text := ' ' :: r.origin.modulePath },
    bracket ']', { text := ' ' :: indent r.message ++ ['\n'] }]

end Record

end ImportAlias.Log
