import ImportAlias.Command.Arguments
import ImportAlias.Command.Help
import ImportAlias.Log.Filter
import ImportAlias.Run

/-!
# The command

From arguments, environment and tree to what is printed, the exit code, and the tree that is left.
-/
namespace ImportAlias.Command

abbrev Environment := List (Text × Text)

namespace Environment

def get? (env : Environment) (name : String) : Option Text := env.lookup name.toList

def has (env : Environment) (name : String) : Bool := (env.get? name).isSome

end Environment

/-- Whether colour is asked for. `isTerminal` says where the output goes. -/
def When.asksForColour (isTerminal : Bool) (env : Environment) : When → Bool
  | always => true
  | never => false
  | auto =>
    if env.has "NO_COLOR" then false
    else if env.has "FORCE_COLOR" then true
    else if env.get? "TERM" = some "dumb".toList then false
    else isTerminal

/-- Whether the terminal takes colour; one that is not named does not. -/
def allowsColour (env : Environment) : Bool :=
  match env.get? "TERM" with
  | none => false
  | some term => term ≠ "dumb".toList && !env.has "NO_COLOR"

def coloured (isTerminal : Bool) (env : Environment) (o : Options) : Bool :=
  (o.colour?.getD .auto).asksForColour isTerminal env && allowsColour env

/-- Whether messages are coloured though they do not go to a terminal. -/
def forcesColour (env : Environment) : Bool :=
  let isSet (name : String) : Bool := (env.get? name).any (· ≠ [])
  isSet "CLICOLOR_FORCE" && !isSet "NO_COLOR"

def coloursLog (env : Environment) : Bool :=
  match env.get? "RUST_LOG_STYLE" with
  | some style =>
    style = "always".toList || (style ≠ "never".toList && forcesColour env)
  | none => forcesColour env

def logFilter (env : Environment) (o : Options) : Log.Filter × List Log.Filter.Fault :=
  Log.Filter.parse ((env.get? "RUST_LOG").getD (if o.debug then "debug".toList else "warn".toList))

def reporter (isTerminal : Bool) (env : Environment) (o : Options) : Reporter :=
  if o.json then .json else .console { coloured := coloured isTerminal env o }

structure Result where
  exit : Nat
  stdout : Text := []
  stderr : Text := []
  tree : Tree
  /-- The places that were written to. -/
  fresh : List Place := []

/-- What is written to the log: what is wrong with its filter, and the records that pass. -/
def logText (env : Environment) (o : Options) (records : List Log.Record) : Text :=
  let (filter, faults) := logFilter env o
  faults.flatMap Log.Filter.Fault.line ++
    (records.filter filter.shows).flatMap fun r => r.line.shown (coloursLog env)

def runOptions (isTerminal : Bool) (env : Environment) (o : Options) (t : Tree) : Result :=
  let out := Run.reported (reporter isTerminal env o) o.settings t
  let log := logText env o out.state.log
  let failure? := match out.result? with
    | some (.error e) => some e
    | _ => none
  { exit := if failure?.isSome then 1 else 0
    stdout := out.state.output
    stderr := match failure? with
      | some e => log ++ "importfix: ".toList ++ e.message ++ ['\n']
      | none => log
    tree := out.state.tree
    fresh := out.state.fresh }

def execute (isTerminal : Bool) (env : Environment) (args : List Bytes) (t : Tree) : Result :=
  let shown (s : Styled) : Text := s.shown (forcesColour env)
  match readArguments args with
  | .ok o => runOptions isTerminal env o t
  | .error (.wrong e) => { exit := 2, stderr := shown e.line, tree := t }
  | .error (.help long) =>
    { exit := 0, stdout := shown (if long then help else shortHelp), tree := t }
  | .error .version => { exit := 0, stdout := shown version, tree := t }

end ImportAlias.Command
