import ImportAlias.Report.Console
import ImportAlias.Report.Json

/-!
# Reporters

The reporter of a run: silent, for people, or for programs.
-/
namespace ImportAlias

inductive Reporter where
  | silent
  | console (c : Console)
  | json

namespace Reporter

/-- What an event makes a reporter write, or why it cannot. -/
def step (cwd : Path) (r : Reporter) (e : Event) : Reporter × Except Text Text :=
  match r with
  | silent => (silent, .ok [])
  | console c =>
    let (c, t) := c.step cwd e
    (console c, .ok t)
  | json => (json, Json.report e)

end Reporter

end ImportAlias
