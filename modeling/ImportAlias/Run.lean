import ImportAlias.Document
import ImportAlias.Report.Reporter
import ImportAlias.Rule
import ImportAlias.Tree.Edit
import ImportAlias.Walk

/-!
# Runs

A run as a machine that takes one item of the walk per step. Whoever listens to the run is called
at its start, after each change and at its end; while it is called it may change the tree, write
something, and make the run fail. Between two calls nothing but the run itself touches the tree.
-/
namespace ImportAlias

/-- What a listener does in return for an event. -/
structure Reply where
  edits : List Edit := []
  output : Text := []
  failure? : Option Text := none

structure Listener (σ : Type) where
  hear : σ → Event → Tree → σ × Reply

/-- A text put into a file by a run. -/
structure Write where
  path : Path
  place : Place
  text : Text

namespace Run

structure State (σ : Type) where
  tree : Tree
  pending : List Walk.Item
  summary : Summary
  listener : σ
  /-- The files that the walk has come to. -/
  visited : List Path := []
  writes : List Write := []
  /-- The places that hold what the run wrote there, as far as later edits left them alone. -/
  fresh : List Place := []
  events : List Event := []
  log : List Log.Record := []
  output : Text := []

structure Outcome (σ : Type) where
  state : State σ
  /-- `none` for a run that was not followed to its end. -/
  result? : Option (Except Error Summary)

section Steps
variable {σ : Type}

def State.applyEdit (st : State σ) (e : Edit) : State σ :=
  let (tree, edited?) := e.apply st.tree
  let isLeft (place : Place) : Bool :=
    match edited? with
    | some edited => !edited.isPrefixOf place
    | none => true
  { st with tree, fresh := st.fresh.filter isLeft }

def State.logged (st : State σ) (records : List Log.Record) : State σ :=
  { st with log := st.log ++ records }

/-- Tells the listener of an event and takes its reply. -/
def call (l : Listener σ) (st : State σ) (e : Event) : State σ × Option Error :=
  let (listener, reply) := l.hear st.listener e st.tree
  let st := { st with listener, events := st.events ++ [e], output := st.output ++ reply.output }
  (reply.edits.foldl State.applyEdit st, reply.failure?.map .output)

def note (level : Log.Level) (d : Document) (rest : Text) : Log.Record :=
  ⟨level, .runner, d.relative.display ++ ": ".toList ++ rest⟩

/-- The records of one file: that it is scanned, what the rule has to say, what was skipped. -/
def scanLog (d : Document) (s : Substitution) (records : List Log.Record) : List Log.Record :=
  ⟨.debug, .runner, "scanning ".toList ++ d.relative.display⟩ :: records ++
    s.skipped.map fun target =>
      note .warn d ("skipping import with escaped quote: ".toList ++ target)

def State.written (st : State σ) (d : Document) (text : Text) (place : Place) (tree : Tree) :
    State σ :=
  { st with
    tree
    writes := st.writes ++ [⟨d.path, place, text⟩]
    fresh := place :: st.fresh.filter (· ≠ place) }

/-- Writes a new text, unless the run is a dry one. -/
def store (dryRun : Bool) (st : State σ) (d : Document) (text : Text) : Except Error (State σ) :=
  if dryRun then .ok st
  else match d.save st.tree text with
    | .error e => .error e
    | .ok (none, _) => .ok st
    | .ok (some place, tree) => .ok (st.written d text place tree)

/-- Tells of a changed file and counts it. -/
def announce (l : Listener σ) (st : State σ) (d : Document) (count : Nat) :
    State σ × Option Error :=
  let change : Change := { path := d.path, relative := d.relative.display, count }
  let (st, failure?) := call l st (.change change)
  match failure? with
  | some e => (st, some e)
  | none => ({ st with summary := st.summary.record change }, none)

def visit (l : Listener σ) (s : Settings) (st : State σ) (p : Path) : State σ × Option Error :=
  let st := { st with visited := st.visited ++ [p] }
  match Document.load st.tree s.root p with
  | .error e => (st, some e)
  | .ok d =>
    let (sub, records) := (Rule.ofSettings s).apply d.relative d.text
    let text := sub.result d.text
    let st := { st with summary := st.summary.scanned }.logged (scanLog d sub records)
    if text = d.text then (st, none)
    else match store s.dryRun st d text with
      | .error e => (st, some e)
      | .ok st =>
        let st := st.logged
          [note .info d ("rewrote ".toList ++ decimal sub.count ++ " import(s)".toList)]
        announce l st d sub.count

/-- One step: the end of the run, a file, or a look into a directory. -/
def step (l : Listener σ) (s : Settings) (st : State σ) : Outcome σ :=
  match st.pending with
  | [] =>
    let (after, failure?) := call l st (.finish st.summary)
    ⟨after, some (match failure? with
      | some e => .error e
      | none => .ok st.summary)⟩
  | .file p :: rest =>
    let (st, failure?) := visit l s { st with pending := rest } p
    ⟨st, failure?.map .error⟩
  | item :: rest =>
    match Walk.expand s.selection st.tree item with
    | .ok items => ⟨{ st with pending := items ++ rest }, none⟩
    | .error e => ⟨{ st with pending := rest }, some (.error e)⟩

def steps (l : Listener σ) (s : Settings) : Nat → State σ → Outcome σ
  | 0, st => ⟨st, none⟩
  | n + 1, st =>
    match step l s st with
    | ⟨st, none⟩ => steps l s n st
    | done => done

def initial (s : Settings) (listener : σ) (t : Tree) : State σ :=
  { tree := t, pending := [.root s.root], summary := .start s, listener }

/-- A run with a listener, followed for `budget` steps: a listener that keeps adding files can
keep a run from ever ending. -/
def heard (budget : Nat) (l : Listener σ) (listener : σ) (s : Settings) (t : Tree) : Outcome σ :=
  let st := initial s listener t
  if t.isDir s.root then
    match call l st (.start s) with
    | (st, some e) => ⟨st, some (.error e)⟩
    | (st, none) => steps l s budget st
  else ⟨st, some (.error (.rootMissing s.root))⟩

end Steps

/-- The listener that only reports. -/
def reporting (cwd : Path) : Listener Reporter where
  hear r e _ :=
    match r.step cwd e with
    | (r, .ok output) => (r, { output })
    | (r, .error reason) => (r, { failure? := some reason })

/-- A run that nothing interferes with. -/
def reported (r : Reporter) (s : Settings) (t : Tree) : Outcome Reporter :=
  heard (Walk.budget t) (reporting t.cwdPath) r s t

end Run

end ImportAlias
