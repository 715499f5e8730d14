import ImportAlias.Text.Styled

/-!
# Help texts

The two help texts and the version line.
-/
namespace ImportAlias.Command

def heading (s : String) : Span :=
  { text := s.toList, style := { bold := true, underlined := true } }

/-- A word that is typed as it stands. -/
def known (s : String) : Span := { text := s.toList, style := { bold := true } }

def helpLines : List Styled :=
  [[.plain "Rewrite relative TypeScript imports into alias-prefixed form"],
    [],
    [heading "Usage:", .plain " ", known "importfix", .plain " [OPTIONS] [PATH]"],
    [],
    [heading "Arguments:"],
    [.plain "  [PATH]"],
    [.plain "          Source root to rewrite"],
    [.plain "          "],
    [.plain "          [default: apps/web/src]"],
    [],
    [heading "Options:"],
    [.plain "  ", known "-m", .plain ", ", known "--mode", .plain " <MODE>"],
    [.plain "          Rewrite rule set to apply"],
    [],
    [.plain "          Possible values:"],
    [.plain "          - ", known "folder", .plain ":      Rewrite from the first known top-level folder segment"],
    [.plain "          - ", known "resolve", .plain ":     Resolve the import against the importing file's directory"],
    [.plain "          - ", known "consolidate", .plain ": Collapse legacy types/supabase imports into the shared package"],
    [.plain "          "],
    [.plain "          [default: folder]"],
    [],
    [.plain "      ", known "--alias", .plain " <PREFIX>"],
    [.plain "          Alias prefix for folder and resolve rewrites"],
    [.plain "          "],
    [.plain "          [default: @/]"],
    [],
    [.plain "      ", known "--folder", .plain " <NAME>"],
    [.plain "          Known top-level source folder (can be used multiple times, replaces the default list)"],
    [],
    [.plain "      ", known "--shared", .plain " <TARGET>"],
    [.plain "          Target that consolidated imports are rewritten to"],
    [.plain "          "],
    [.plain "          [default: @tgt/shared]"],
    [],
    [.plain "  ", known "-e", .plain ", ", known "--ext", .plain " <EXT>"],
    [.plain "          File extension to rewrite (can be used multiple times, default: ts, tsx)"],
    [],
    [.plain "  ", known "-I", .plain ", ", known "--ignore", .plain " <IGNORE>"],
    [.plain "          Skip entries matching pattern (can be used multiple times)"],
    [],
    [.plain "  ", known "-n", .plain ", ", known "--dry-run"],
    [.plain "          Report what would change without writing files"],
    [],
    [.plain "      ", known "--json"],
    [.plain "          Output a JSON summary instead of one line per file"],
    [],
    [.plain "      ", known "--color", .plain " <WHEN>"],
    [.plain "          Control color output: auto, always, never"],
    [],
    [.plain "          Possible values:"],
    [.plain "          - ", known "auto", .plain ":   Auto-detect based on terminal and environment"],
    [.plain "          - ", known "always", .plain ": Always use colors"],
    [.plain "          - ", known "never", .plain ":  Never use colors"],
    [.plain "          "],
    [.plain "          [default: auto]"],
    [],
    [.plain "  ", known "-d", .plain ", ", known "--debug"],
    [.plain "          Enable debug logging (overridden by RUST_LOG)"],
    [],
    [.plain "  ", known "-h", .plain ", ", known "--help"],
    [.plain "          Print help (see a summary with '-h')"],
    [],
    [.plain "  ", known "-V", .plain ", ", known "--version"],
    [.plain "          Print version"]]

def shortHelpLines : List Styled :=
  [[.plain "Rewrite relative TypeScript imports into alias-prefixed form"],
    [],
    [heading "Usage:", .plain " ", known "importfix", .plain " [OPTIONS] [PATH]"],
    [],
    [heading "Arguments:"],
    [.plain "  [PATH]  Source root to rewrite [default: apps/web/src]"],
    [],
    [heading "Options:"],
    [.plain "  ", known "-m", .plain ", ", known "--mode", .plain " <MODE>      Rewrite rule set to apply [default: folder] [possible values: folder, resolve, consolidate]"],
    [.plain "      ", known "--alias", .plain " <PREFIX>   Alias prefix for folder and resolve rewrites [default: @/]"],
    [.plain "      ", known "--folder", .plain " <NAME>    Known top-level source folder (can be used multiple times, replaces the default list)"],
    [.plain "      ", known "--shared", .plain " <TARGET>  Target that consolidated imports are rewritten to [default: @tgt/shared]"],
    [.plain "  ", known "-e", .plain ", ", known "--ext", .plain " <EXT>        File extension to rewrite (can be used multiple times, default: ts, tsx)"],
    [.plain "  ", known "-I", .plain ", ", known "--ignore", .plain " <IGNORE>  Skip entries matching pattern (can be used multiple times)"],
    [.plain "  ", known "-n", .plain ", ", known "--dry-run", .plain "          Report what would change without writing files"],
    [.plain "      ", known "--json", .plain "             Output a JSON summary instead of one line per file"],
    [.plain "      ", known "--color", .plain " <WHEN>     Control color output: auto, always, never [default: auto] [possible values: auto, always, never]"],
    [.plain "  ", known "-d", .plain ", ", known "--debug", .plain "            Enable debug logging (overridden by RUST_LOG)"],
    [.plain "  ", known "-h", .plain ", ", known "--help", .plain "             Print help (see more with '--help')"],
    [.plain "  ", known "-V", .plain ", ", known "--version", .plain "          Print version"]]

def lines (ls : List Styled) : Styled := ls.flatMap fun l => l ++ [.plain "\n"]

def help : Styled := lines helpLines

def shortHelp : Styled := lines shortHelpLines

def version : Styled := lines [[.plain "importfix 0.1.0"]]

end ImportAlias.Command
