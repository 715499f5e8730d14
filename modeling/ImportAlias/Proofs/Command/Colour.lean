import ImportAlias.Command.Execute
import ImportAlias.Proofs.Command.Reading
import ImportAlias.Proofs.Run.Transcript

/-!
# A report that is to be coloured always

Whether the report for people is coloured is decided twice, by what the arguments ask for and by
what the environment allows. Arguments that ask for colour always have their way in the first
decision only. So the report is the coloured one if the environment names a terminal that takes
colour, and otherwise only if there is nothing in it to be coloured.
-/
namespace ImportAlias.Command

/-- A terminal is named that is not `dumb`, and colour is not turned off. -/
def TakesColour (env : Environment) : Prop :=
  (∃ term, env.get? "TERM" = some term ∧ term ≠ "dumb".toList) ∧ env.get? "NO_COLOR" = none

variable {env : Environment} {args : List Bytes} {o : Options}

theorem allowsColour_iff : allowsColour env = true ↔ TakesColour env := by
  rw [allowsColour, TakesColour]
  cases env.get? "TERM" with
  | none => simp
  | some term => simp [Environment.has]

/-- What the environment allows is looked at even if colour is asked for always. -/
theorem reporter_of_always (isTerminal : Bool) (env : Environment) (hconsole : o.json = false)
    (hcolour : o.colour? = some .always) :
    reporter isTerminal env o = .console { coloured := allowsColour env } := by
  simp [reporter, hconsole, coloured, hcolour, When.asksForColour]

theorem stdout_execute (isTerminal : Bool) (env : Environment) (t : Tree)
    (hread : readArguments args = .ok o) :
    (execute isTerminal env args t).stdout =
      (Run.reported (reporter isTerminal env o) o.settings t).state.output := by
  rw [execute, hread]
  rfl

/-- With arguments that ask for a coloured report always, the report is what a console with colour
says to the same run exactly if the environment takes colour, or if nothing is changed in the run. -/
theorem stdout_eq_coloured_iff (isTerminal : Bool) (env : Environment) (t : Tree)
    (hread : readArguments args = .ok o) (hconsole : o.json = false)
    (halways : When.always.IsGivenIn args) :
    let ansi := (Run.reported (.console { coloured := true }) o.settings t).state
    (execute isTerminal env args t).stdout = ansi.output ↔
      TakesColour env ∨ ∀ c, .change c ∉ ansi.events := by
  intro ansi
  have hcolour := colour?_of_isGivenIn hread halways
  have hsaid : ∀ coloured : Bool,
      (Run.reported (.console { coloured }) o.settings t).state.output =
        Console.transcript t.cwdPath { coloured } ansi.events :=
    fun coloured => Run.output_console { coloured } { coloured := true } o.settings t
  rw [stdout_execute isTerminal env t hread, reporter_of_always isTerminal env hconsole hcolour,
    hsaid, ← allowsColour_iff]
  have hansi : ansi.output = Console.transcript t.cwdPath { coloured := true } ansi.events :=
    hsaid true
  rw [hansi]
  cases allowsColour env with
  | true => simp
  | false => simpa using Console.transcript_coloured_eq_iff t.cwdPath .folder ansi.events

section Sample

def alwaysArguments : List Bytes := [".", "-m", "resolve", "--color", "always"].map word

def alwaysOptions : Options :=
  { path? := some ⟨word "."⟩, mode? := some .resolve, colour? := some .always }

def alwaysTree : Tree :=
  (Tree.empty {} []).put [.ofText "n.ts".toList] (.file (Utf8.encode "from './lib/a'".toList))

/-- One file is changed. Its line is coloured on a terminal that takes colour, and not where no
terminal is named. -/
theorem stdout_always_unnamed :
    let ansi := (Run.reported (.console { coloured := true }) alwaysOptions.settings alwaysTree).state
    let stdout (env : Environment) := (execute false env alwaysArguments alwaysTree).stdout
    readArguments alwaysArguments = .ok alwaysOptions ∧
      stdout [("TERM".toList, "xterm".toList)] = ansi.output ∧ stdout [] ≠ ansi.output := by
  have hread : readArguments alwaysArguments = .ok alwaysOptions := by decide +kernel
  have halways : When.always.IsGivenIn alwaysArguments :=
    Or.inl ⟨[".", "-m", "resolve"].map word, [], rfl⟩
  have hchange : .change ⟨Path.ofText "./n.ts".toList, "n.ts".toList, 1⟩ ∈
      (Run.reported (.console { coloured := true }) alwaysOptions.settings
        alwaysTree).state.events := by
    decide +kernel
  intro ansi stdout
  refine ⟨hread, ?_, ?_⟩
  · refine (stdout_eq_coloured_iff false _ alwaysTree hread rfl halways).2 (Or.inl ?_)
    exact ⟨⟨"xterm".toList, by decide +kernel, by decide⟩, by decide +kernel⟩
  · intro heq
    rcases (stdout_eq_coloured_iff false [] alwaysTree hread rfl halways).1 heq with
      ⟨⟨term, hterm, -⟩, -⟩ | hnone
    · cases hterm
    · exact hnone _ hchange

end Sample

end ImportAlias.Command
