import ImportAlias.Settings
import ImportAlias.Text.Styled

/-!
# The arguments of the command

Reading the arguments of the command. An argument that may still get a value, or whose value has
not been looked at, is held back until the next one is known: so an unknown argument is reported
before a bad value that stands in front of it, and asking for help comes after it.
-/
namespace ImportAlias.Command

/-- When the console report is coloured. -/
inductive When where
  | auto
  | always
  | never
  deriving DecidableEq

namespace When

def all : List When := [auto, always, never]

def name : When → Text
  | auto => "auto".toList
  | always => "always".toList
  | never => "never".toList

end When

/-- An option that takes a value. -/
inductive Parameter where
  | mode
  | importAlias
  | folder
  | shared
  | extension
  | ignored
  | colour
  deriving DecidableEq

inductive Flag where
  | dryRun
  | json
  | debug
  deriving DecidableEq

inductive Switch where
  | parameter (p : Parameter)
  | flag (f : Flag)
  | help
  | version
  deriving DecidableEq

namespace Switch

def all : List Switch :=
  [.parameter .mode, .parameter .importAlias, .parameter .folder, .parameter .shared,
    .parameter .extension, .parameter .ignored, .parameter .colour, .flag .dryRun, .flag .json,
    .flag .debug, .help, .version]

def long : Switch → Text
  | parameter .mode => "mode".toList
  | parameter .importAlias => "alias".toList
  | parameter .folder => "folder".toList
  | parameter .shared => "shared".toList
  | parameter .extension => "ext".toList
  | parameter .ignored => "ignore".toList
  | parameter .colour => "color".toList
  | flag .dryRun => "dry-run".toList
  | flag .json => "json".toList
  | flag .debug => "debug".toList
  | help => "help".toList
  | version => "version".toList

def short? : Switch → Option Char
  | parameter .mode => some 'm'
  | parameter .extension => some 'e'
  | parameter .ignored => some 'I'
  | flag .dryRun => some 'n'
  | flag .debug => some 'd'
  | help => some 'h'
  | version => some 'V'
  | _ => none

def valueName : Parameter → Text
  | .mode => "MODE".toList
  | .importAlias => "PREFIX".toList
  | .folder => "NAME".toList
  | .shared => "TARGET".toList
  | .extension => "EXT".toList
  | .ignored => "IGNORE".toList
  | .colour => "WHEN".toList

/-- How an option is called in messages. -/
def usage (s : Switch) : Text :=
  match s with
  | parameter p => "--".toList ++ s.long ++ " <".toList ++ valueName p ++ ['>']
  | _ => "--".toList ++ s.long

def ofLong? (t : Text) : Option Switch := all.find? (·.long = t)

def ofShort? (c : Char) : Option Switch := all.find? (·.short? = some c)

end Switch

inductive UsageError where
  | invalidValue (value usage : Text)
  | missingValue (usage : Text)
  | unexpectedArgument (shown : Text)
  | repeated (usage : Text)
  | unexpectedValue (value usage : Text)
  | invalidText
  deriving DecidableEq

namespace UsageError

def shownError : Span := { text := "error:".toList, style := { bold := true, colour? := some 31 } }

/-- What the user gave, in quotes. -/
def given (t : Text) : Styled :=
  [.plain "'", { text := t, style := { colour? := some 33 } }, .plain "'"]

/-- What the command knows, in quotes. -/
def known (t : Text) : Styled := [.plain "'", { text := t, style := { bold := true } }, .plain "'"]

def body : UsageError → Styled
  | invalidValue value usage =>
    .plain " invalid value " :: given value ++ .plain " for " :: known usage
  | missingValue usage =>
    .plain " a value is required for " :: given usage ++ [.plain " but none was supplied"]
  | unexpectedArgument shown => .plain " unexpected argument " :: given shown ++ [.plain " found"]
  | repeated usage =>
    .plain " the argument " :: given usage ++ [.plain " cannot be used multiple times"]
  | unexpectedValue value usage =>
    .plain " unexpected value " :: given value ++ .plain " for " :: known usage ++
      [.plain " found; no more were expected"]
  | invalidText => [.plain " invalid UTF-8 was detected in one or more arguments"]

def line (e : UsageError) : Styled := shownError :: e.body ++ [.plain "\n"]

end UsageError

/-- What the arguments say; an option that may be given once is `none` until it is. -/
structure Options where
  path? : Option Path := none
  mode? : Option Mode := none
  importAlias? : Option Text := none
  folders : List Text := []
  sharedTarget? : Option Text := none
  extensions : List Text := []
  ignored : List Text := []
  colour? : Option When := none
  dryRun : Bool := false
  json : Bool := false
  debug : Bool := false
  deriving DecidableEq

/-- Why reading ends before all arguments are read. -/
inductive Stop where
  | wrong (e : UsageError)
  | help (long : Bool)
  | version
  deriving DecidableEq

namespace Options

def isGiven (o : Options) : Parameter → Bool
  | .mode => o.mode?.isSome
  | .importAlias => o.importAlias?.isSome
  | .shared => o.sharedTarget?.isSome
  | .colour => o.colour?.isSome
  | .folder | .extension | .ignored => false

/-- A value out of a list of names. No value at all counts as missing. -/
def choose {α : Type} (choices : List α) (name : α → Text) (p : Parameter) (value : Bytes) :
    Except UsageError α :=
  let usage := (Switch.parameter p).usage
  match Utf8.decode? value with
  | some [] => .error (.missingValue usage)
  | some t =>
    match choices.find? (name · = t) with
    | some a => .ok a
    | none => .error (.invalidValue t usage)
  | none => .error (.invalidValue (Utf8.lossy value) usage)

def readText (value : Bytes) : Except UsageError Text :=
  match Utf8.decode? value with
  | some t => .ok t
  | none => .error .invalidText

def withParameter (o : Options) (p : Parameter) (value : Bytes) : Except UsageError Options := do
  if o.isGiven p then throw (.repeated (Switch.parameter p).usage)
  match p with
  | .mode => pure { o with mode? := some (← choose Mode.all Mode.name p value) }
  | .importAlias => pure { o with importAlias? := some (← readText value) }
  | .folder => pure { o with folders := o.folders ++ [← readText value] }
  | .shared => pure { o with sharedTarget? := some (← readText value) }
  | .extension => pure { o with extensions := o.extensions ++ [← readText value] }
  | .ignored => pure { o with ignored := o.ignored ++ [← readText value] }
  | .colour => pure { o with colour? := some (← choose When.all When.name p value) }

def withFlag (o : Options) (f : Flag) : Except UsageError Options :=
  let given := match f with
    | .dryRun => o.dryRun
    | .json => o.json
    | .debug => o.debug
  if given then .error (.repeated (Switch.flag f).usage)
  else .ok (match f with
    | .dryRun => { o with dryRun := true }
    | .json => { o with json := true }
    | .debug => { o with debug := true })

def withPath (o : Options) (value : Bytes) : Except UsageError Options :=
  if value = [] then .error (.missingValue "[PATH]".toList) else .ok { o with path? := some ⟨value⟩ }

/-- The settings that the options ask for. Extensions may be given with their dots. -/
def settings (o : Options) : Settings :=
  let default : Settings := {}
  { root := o.path?.getD default.root
    mode := o.mode?.getD default.mode
    importAlias := o.importAlias?.getD default.importAlias
    folders := if o.folders = [] then default.folders else o.folders
    sharedTarget := o.sharedTarget?.getD default.sharedTarget
    extensions :=
      if o.extensions = [] then default.extensions
      else o.extensions.map (·.dropWhile (· = '.'))
    ignored := o.ignored
    dryRun := o.dryRun }

end Options

/-- An argument that is held back. -/
inductive Held where
  | parameter (p : Parameter) (value? : Option Bytes)
  | path (value : Bytes)
  deriving DecidableEq

structure Reading where
  options : Options := {}
  held? : Option Held := none
  hasPath : Bool := false
  /-- After `--` everything is a path. -/
  onlyPaths : Bool := false

namespace Reading

def orStop {α : Type} (r : Except UsageError α) : Except Stop α := r.mapError .wrong

/-- Takes the held argument into account. -/
def settle (r : Reading) : Except Stop Reading :=
  match r.held? with
  | none => .ok r
  | some (.parameter p none) => .error (.wrong (.missingValue (Switch.parameter p).usage))
  | some (.parameter p (some value)) => do
    let options ← orStop (r.options.withParameter p value)
    pure { r with options, held? := none }
  | some (.path value) => do
    let options ← orStop (r.options.withPath value)
    pure { r with options, held? := none }

/-- An option with its value right behind it is settled at once. -/
def parameter (r : Reading) (p : Parameter) (value? : Option Bytes) : Except Stop Reading := do
  let r ← r.settle
  match value? with
  | some value =>
    let options ← orStop (r.options.withParameter p value)
    pure { r with options }
  | none => pure { r with held? := some (.parameter p none) }

def flag (r : Reading) (f : Flag) : Except Stop Reading := do
  let r ← r.settle
  let options ← orStop (r.options.withFlag f)
  pure { r with options }

def stop (r : Reading) (s : Stop) : Except Stop Reading := do
  let _ ← r.settle
  throw s

def positional (r : Reading) (arg : Bytes) : Except Stop Reading := do
  if r.hasPath then throw (.wrong (.unexpectedArgument (Utf8.lossy arg)))
  let r ← r.settle
  pure { r with held? := some (.path arg), hasPath := true }

def equals : UInt8 := 61

/-- An argument after its two dashes: a name, and a value if there is a `=`. -/
def longSwitch (r : Reading) (arg : Bytes) : Except Stop Reading :=
  let name := arg.takeWhile (· ≠ equals)
  let value? := if name.length < arg.length then some (arg.drop (name.length + 1)) else none
  let unknown := Except.error (Stop.wrong (.unexpectedArgument ("--".toList ++ Utf8.lossy name)))
  match (Utf8.decode? name).bind Switch.ofLong? with
  | none => unknown
  | some (.parameter p) => r.parameter p value?
  | some switch =>
    match value? with
    | some value => .error (.wrong (.unexpectedValue (Utf8.lossy value) switch.usage))
    | none =>
      match switch with
      | .flag f => r.flag f
      | .help => r.stop (.help true)
      | .version => r.stop .version
      | .parameter p => r.parameter p none

/-- The first letter of a cluster, or all of it where it is no text. -/
def shownLetter (b : UInt8) (rest : Bytes) : Text :=
  match Utf8.headPiece b rest with
  | (some c, _) => ['-', c]
  | (none, _) => '-' :: Utf8.lossy (b :: rest)

/-- Letters after one dash. A letter that takes a value takes what follows it. -/
def cluster (r : Reading) : Bytes → Except Stop Reading
  | [] => .ok r
  | b :: rest =>
    match (Utf8.headPiece b rest).1.bind Switch.ofShort? with
    | none => .error (.wrong (.unexpectedArgument (shownLetter b rest)))
    | some (.parameter p) =>
      match rest with
      | [] => r.parameter p none
      | first :: more => r.parameter p (some (if first = equals then more else rest))
    | some (.flag f) =>
      match r.flag f with
      | .ok r => cluster r rest
      | .error s => .error s
    | some .help => r.stop (.help false)
    | some .version => r.stop .version

def dash : UInt8 := 45

/-- A plain argument is the value of an option that waits for one, or else the path. -/
def plain (r : Reading) (arg : Bytes) : Except Stop Reading :=
  match r.held? with
  | some (.parameter p none) => .ok { r with held? := some (.parameter p (some arg)) }
  | _ => r.positional arg

def argument (r : Reading) (arg : Bytes) : Except Stop Reading :=
  if r.onlyPaths then r.positional arg
  else match arg with
    | a :: b :: rest =>
      if a = dash && b = dash then
        if rest = [] then .ok { r with onlyPaths := true } else r.longSwitch rest
      else if a = dash then r.cluster (b :: rest)
      else r.plain arg
    | _ => r.plain arg

end Reading

def readArguments (args : List Bytes) : Except Stop Options := do
  let r ← args.foldlM Reading.argument {}
  pure (← r.settle).options

end ImportAlias.Command
