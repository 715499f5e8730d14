import ImportAlias.Pattern.Basic
import ImportAlias.Text.ByteRange
import Std.Data.HashMap

/-!
# The size of a pattern

How large a pattern may be. A search runs on two machines that read bytes, one from the front and
one from the back, and each of them has to fit into a given memory. They are not built: only their
states are counted, in the order in which they would be made, since states of a set are shared by
their numbers.
-/
namespace ImportAlias.Pattern

/-- How many states there are, and the memory that their links take. -/
structure Meter where
  states : Nat := 0
  links : Nat := 0

namespace Meter

/-- The memory of a machine, in bytes. -/
def size (m : Meter) : Nat := 32 * m.states + m.links

def limit : Nat := 10485760

def isOver (m : Meter) : Bool := limit < m.size

def state (m : Meter) : Meter := { m with states := m.states + 1 }

/-- Adds states without links. -/
def chain (n : Nat) (m : Meter) : Meter := { m with states := m.states + n }

/-- Adds links from states that only choose. -/
def choices (n : Nat) (m : Meter) : Meter := { m with links := m.links + 4 * n }

/-- Adds a state that takes a byte from one of several ranges. -/
def ranges (n : Nat) (m : Meter) : Meter := { m.state with links := m.links + 8 * n }

/-- Adds something several times. What is too large already does not grow on. -/
def copies (add : Meter → Meter) : Nat → Meter → Meter
  | 0, m => m
  | n + 1, m => if m.isOver then m else copies add n (add m)

end Meter

/-! Sets -/

/-- States that can be shared, by a hash of what they are. A place keeps the last one only. -/
structure Shared where
  places : Nat
  states : Std.HashMap Nat (List Nat × Nat) := {}

namespace Shared

def hash (key : List Nat) : UInt64 :=
  key.foldl (fun h n => (h ^^^ n.toUInt64) * 1099511628211) 14695981039346656037

def place (s : Shared) (key : List Nat) : Nat := (hash key).toNat % s.places

def find? (s : Shared) (key : List Nat) : Option Nat :=
  match s.states[s.place key]? with
  | some (k, state) => if k = key then some state else none
  | none => none

def insert (s : Shared) (key : List Nat) (state : Nat) : Shared :=
  { s with states := s.states.insert (s.place key) (key, state) }

end Shared

/-- A count of states of a set, with those that can be shared. -/
abbrev SetMeter := Shared × Meter

namespace SetMeter

/-- The number of the state with a given key, which is added unless it can be shared. -/
def stateFor (key : List Nat) (add : Meter → Meter) (m : SetMeter) : Nat × SetMeter :=
  match m.1.find? key with
  | some state => (state, m)
  | none => (m.2.states, m.1.insert key m.2.states, add m.2)

/-- Adds states that take the bytes of a sequence. A reader from the back meets the first byte
last, so its state is the first to be made, and each further one leads to the one before. -/
def addBackward (last : Nat) (m : SetMeter) (bytes : List ByteRange) : SetMeter :=
  let step (r : Nat × SetMeter) (b : ByteRange) : Nat × SetMeter :=
    stateFor [r.1, b.1, b.2] Meter.state r.2
  let (shared, meter) := (bytes.foldl step (last, m)).2
  (shared, meter.choices 1)

/-- Adds a state that takes the first bytes of several sequences, after the states for the bytes
that follow them. `depth` is at least the length of each sequence. -/
def addForward (last : Nat) : Nat → List (List ByteRange) → SetMeter → Nat × SetMeter
  | 0, _, m => (last, m)
  | depth + 1, sequences, m =>
    if sequences.all List.isEmpty then (last, m)
    else
      let step (r : List Nat × SetMeter) (group : List (List ByteRange)) : List Nat × SetMeter :=
        let (first, final) := (group.head?.bind List.head?).getD (0, 0)
        let (next, m) := addForward last depth (group.map (List.drop 1)) r.2
        (r.1 ++ [first, final, next], m)
      let groups := sequences.splitBy fun a b => a.head? == b.head?
      let (key, m) := groups.foldl step ([], m)
      stateFor key (Meter.ranges groups.length) m

end SetMeter

namespace Meter

def set (backward : Bool) (s : CodeSet) (m : Meter) : Meter :=
  if s.isAscii then m.state.ranges s.ranges.length
  else if backward then
    let start : SetMeter := ({ places := 1000 }, m.chain 2)
    (s.sequences.foldl (SetMeter.addBackward (m.states + 1)) start).2
  else
    let start : SetMeter := ({ places := 10000 }, m.state)
    (SetMeter.addForward m.states 4 s.sequences start).2.2

end Meter

/-! Literal alternatives -/

/-- The words below one state of a tree of words, in the order of their alternatives. -/
abbrev Words := List Bytes

namespace Words

/-- The words between two words that end here, with the number of the latter. A word that ends
where another has ended before, and nothing goes on, is not counted. -/
def runs : Words → List Words × Nat
  | words => words.foldl add ([[]], 0)
where
  add (r : List Words × Nat) (word : Bytes) : List Words × Nat :=
    match word, r.1 with
    | [], _ => if r.2 = 0 || r.1.any (· ≠ []) then ([] :: r.1, r.2 + 1) else r
    | word, run :: runs => ((word :: run) :: runs, r.2)
    | word, [] => ([[word]], r.2)

/-- The words of a run by their first bytes, without these. -/
def branches (run : Words) : List Words :=
  let firsts := (run.filterMap List.head?).eraseDups
  firsts.map fun b => run.reverse.filterMap fun word =>
    if word.head? = some b then some (word.drop 1) else none

/-- Whether a word goes on here. -/
def goesOn (words : Words) : Bool := words.any (· ≠ [])

end Words

namespace Meter

/-- Adds the state for a run of words whose first bytes are of `n` kinds. -/
def run (n : Nat) (m : Meter) : Meter := if n ≤ 1 then m.chain n else m.ranges n

/-- Adds the state at which some words part, and returns where these go on. -/
def words (r : List Words × Meter) (ws : Words) : List Words × Meter :=
  let (runs, ends) := ws.runs
  let branches := runs.map Words.branches
  let links := branches.countP (· ≠ []) + ends
  (branches.flatten.filter Words.goesOn ++ r.1,
    branches.foldl (fun m b => m.run b.length) (r.2.state.choices links))

/-- Adds a tree of words level by level. -/
def levels : Nat → List Words → Meter → Meter
  | 0, _, m => m
  | _ + 1, [], m => m
  | depth + 1, nodes, m =>
    let (next, m) := nodes.foldl words ([], m)
    levels depth next m

end Meter

/-! Patterns -/

/-- The literals among which a pattern chooses, if it is such a choice. -/
def literals? : Pattern → Option (List Text)
  | literal s => some [s]
  | alt (literal s) second => second.literals?.map (s :: ·)
  | _ => none

namespace Meter

def literals (backward : Bool) (texts : List Text) (m : Meter) : Meter :=
  let words := texts.map fun t => if backward then (Utf8.encode t).reverse else Utf8.encode t
  levels (words.foldl (fun n w => max n (w.length + 1)) 0) [words] m.state

/-- Adds rounds, given how one of them is added. -/
def rounds (least : Nat) (most? : Option Nat) (takesSome : Bool) (body : Meter → Meter)
    (m : Meter) : Meter :=
  match least, most? with
  | 0, none =>
    if takesSome then (body m.state).choices 2 else ((body m).chain 3).choices 4
  | least, none => (copies body least m).state.choices 2
  | 0, some 1 => (body m.state).state.choices 2
  | least, some most =>
    let always := if least = 0 then m.state else copies body least m
    if least = most then always
    else copies (fun m => (body m.state).choices 2) (most - least) always.state

/-- Whether a pattern is a whole, or which of several alternatives it is. -/
inductive Role where
  | whole
  | second
  | further
  deriving DecidableEq

/-- Links an alternative to those before it. The choice between two is added behind both. -/
def link : Role → Meter → Meter
  | .whole, m => m
  | .second, m => (m.chain 2).choices 2
  | .further, m => m.choices 1

def pattern (backward : Bool) : Pattern → Role → Meter → Meter
  | .empty, role, m | .look _, role, m => link role m.state
  | .literal s, role, m => link role (m.chain (Utf8.encode s).length)
  | .one s, role, m => link role (m.set backward s)
  | .seq first second, role, m =>
    if backward then link role (pattern backward first .whole (pattern backward second .whole m))
    else link role (pattern backward second .whole (pattern backward first .whole m))
  | .alt first second, .whole, m =>
    match (Pattern.alt first second).literals? with
    | some texts => m.literals backward texts
    | none => pattern backward second .second (pattern backward first .whole m)
  | .alt first second, role, m =>
    pattern backward second .further (link role (pattern backward first .whole m))
  | .rounds least most? _ body, role, m =>
    link role (m.rounds least most? body.takesSome (pattern backward body .whole))
  | .group _ body, role, m =>
    if backward then link role (pattern backward body .whole m)
    else link role (pattern backward body .whole m.state).state

/-- The whole machine: it may skip bytes first, unless only one place comes into question, and
ends with a state that is done. -/
def machine (backward : Bool) (p : Pattern) : Meter :=
  let start : Meter := {}
  let isFixed := if backward then p.endsAtEnd else p.beginsAtStart
  let start := if isFixed then start.state else ((start.chain 2).ranges 1).choices 2
  (pattern backward (.group 0 p) .whole start).state

end Meter

/-- From that many literals on, they are looked for without a machine. -/
def manyLiterals : Nat := 3000

def fits (p : Pattern) : Bool :=
  p.literals?.any (manyLiterals ≤ ·.length) ||
    [false, true].all fun backward => !(Meter.machine backward p).isOver

end ImportAlias.Pattern
