import ImportAlias.Pattern.Machine
import ImportAlias.Text.Scan

/-!
# Searching a text

Search with a machine. All ways of matching go through the text side by side, in the order of
preference, and a way that reaches a state where a preferred one stands is given up: so every
character is looked at once per state. The leftmost match is found, and of those that start there
the preferred one.
-/
namespace ImportAlias.Pattern

/-- A way of matching so far: its state, where it started, where the group was last opened, and the
span that the group last took. Places are counted from the start of the search. -/
structure Thread where
  state : Nat
  start : Nat
  opened : Nat := 0
  group? : Option (Nat × Nat) := none

/-- A match, from `start` to before `stop`. -/
structure Hit where
  start : Nat
  stop : Nat
  group? : Option (Nat × Nat)
  deriving DecidableEq

/-- A place in a text: how far it is from the start, and the characters on its two sides. -/
structure Spot where
  offset : Nat
  before? : Option Char
  after? : Option Char

/-- The threads that stand at one place, the last one first. For every state, `seen` tells behind
how many characters it was last entered, counted from one. -/
structure Front where
  seen : Array Nat
  threads : List Thread

namespace Machine

def front (m : Machine) : Front := ⟨Array.replicate m.states.size 0, []⟩

/-- Follows threads, the preferred one first, up to the states that take a character or are done.
A state that has been seen is not entered again, so every state adds two threads at most. -/
def follow (m : Machine) (spot : Spot) : Nat → List Thread → Front → Front
  | 0, _, f => f
  | _ + 1, [], f => f
  | fuel + 1, t :: rest, f =>
    if f.seen.getD t.state (spot.offset + 1) = spot.offset + 1 then follow m spot fuel rest f
    else
      let f := { f with seen := f.seen.setIfInBounds t.state (spot.offset + 1) }
      match m.states.getD t.state .done with
      | .done | .take _ _ => follow m spot fuel rest { f with threads := t :: f.threads }
      | .pass next => follow m spot fuel ({ t with state := next } :: rest) f
      | .check l next =>
        if l.holds spot.before? spot.after? then
          follow m spot fuel ({ t with state := next } :: rest) f
        else follow m spot fuel rest f
      | .fork first second =>
        follow m spot fuel ({ t with state := first } :: { t with state := second } :: rest) f
      | .openGroup next =>
        follow m spot fuel ({ t with state := next, opened := spot.offset } :: rest) f
      | .closeGroup next =>
        let group? := some (t.opened, spot.offset)
        follow m spot fuel ({ t with state := next, group? } :: rest) f

/-- Adds a thread with all that it leads to without taking a character. -/
def enter (m : Machine) (spot : Spot) (f : Front) (t : Thread) : Front :=
  follow m spot (2 * m.states.size + 2) [t] f

/-- The threads that take a character, moved behind it. -/
def take (m : Machine) (c : Char) (spot : Spot) (seen : Array Nat) (threads : List Thread) :
    Front :=
  threads.foldl (fun f t =>
    match m.states.getD t.state .done with
    | .take set next => if set.has c then m.enter spot f { t with state := next } else f
    | _ => f) ⟨seen, []⟩

def isDone (m : Machine) (t : Thread) : Bool :=
  match m.states.getD t.state .done with
  | .done => true
  | _ => false

/-- Goes on from a place. A thread that is done ends all threads after it, and as long as none is,
a search may also start here. -/
def run (m : Machine) : Text → Nat → Option Char → Front → Option Hit → Option Hit
  | s, offset, before?, f, best? =>
    let spot : Spot := ⟨offset, before?, s.head?⟩
    let f := if best?.isNone then m.enter spot f { state := 0, start := offset } else f
    let threads := f.threads.reverse
    let live := threads.takeWhile (!m.isDone ·)
    let best? :=
      match threads.drop live.length with
      | t :: _ => some ⟨t.start, offset, t.group?⟩
      | [] => best?
    match s with
    | [] => best?
    | c :: rest =>
      if live.isEmpty && best?.isSome then best?
      else
        let spot : Spot := ⟨offset + 1, some c, rest.head?⟩
        run m rest (offset + 1) (some c) (m.take c spot f.seen live) best?

/-- The first match in a text that follows the character `before?`. -/
def search (m : Machine) (before? : Option Char) (s : Text) : Option Hit :=
  m.run s 0 before? m.front none

def isIn (m : Machine) (s : Text) : Bool := (m.search none s).isSome

/-- Goes through a text from match to match. A match that takes nothing does not count where the
last one ended, which `touches` says; so two steps in a row take a character. -/
def piecesFrom (m : Machine) : Nat → Bool → Option Char → Text → List (Piece (Option Text))
  | 0, _, _, s => s.map .plain
  | fuel + 1, touches, before?, s =>
    match m.search before? s with
    | none => s.map .plain
    | some hit =>
      if touches && hit.stop = 0 then
        match s with
        | [] => []
        | c :: rest => .plain c :: piecesFrom m fuel false (some c) rest
      else
        let group? := hit.group?.map fun (start, stop) => (s.drop start).take (stop - start)
        let last? := (s.take hit.stop).getLast?.or before?
        (s.take hit.start).map .plain ++
          .found group? :: piecesFrom m fuel true last? (s.drop hit.stop)

/-- The text as characters outside the matches, and for each match what the group took. -/
def pieces (m : Machine) (s : Text) : List (Piece (Option Text)) :=
  m.piecesFrom (2 * s.length + 2) false none s

end Machine

end ImportAlias.Pattern
