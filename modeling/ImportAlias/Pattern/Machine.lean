import ImportAlias.Pattern.Basic

/-!
# Patterns as machines

A pattern as a machine with numbered states. A state either takes a character or hands on without
taking one; where two ways part, the first one is preferred. The states of a pattern stand in a
row, and the first of them is where it starts.
-/
namespace ImportAlias.Pattern

inductive State where
  | done
  | pass (next : Nat)
  | take (set : CodeSet) (next : Nat)
  | check (l : Look) (next : Nat)
  | fork (first second : Nat)
  | openGroup (next : Nat)
  | closeGroup (next : Nat)

namespace State

/-- The choice between one more round and none. -/
def again (greedy : Bool) (inside next : Nat) : State :=
  if greedy then fork inside next else fork next inside

end State

/-- The group whose text is remembered. -/
def remembered : Nat := 1

/-- How many states rounds have, by their bounds and the number of states of one round. A
repetition without a bound whose body may take nothing has a state of its own for the choice of no
round at all: its first round may take nothing, and comes before no round. -/
def roundsWidth (least : Nat) (most? : Option Nat) (takesSome : Bool) (body : Nat) : Nat :=
  match least, most? with
  | 0, none => if takesSome then body + 1 else body + 2
  | n + 1, none => (n + 1) * body + 1
  | least, some most => max 1 (least * body + (most - least) * (body + 1))

/-- The number of states of a pattern. -/
def width : Pattern → Nat
  | empty | one _ | look _ => 1
  | literal s => max 1 s.length
  | seq first second => first.width + second.width
  | alt first second => first.width + second.width + 1
  | rounds least most? _ body => roundsWidth least most? body.takesSome body.width
  | group index body => if index = remembered then body.width + 2 else body.width

structure Machine where
  states : Array State

namespace Machine

/-- Adds states that take the characters of a text. -/
def addText : Text → Nat → Array State → Array State
  | [], next, states => states.push (.pass next)
  | [c], next, states => states.push (.take (.char c) next)
  | c :: rest, next, states => addText rest next (states.push (.take (.char c) (states.size + 1)))

section Rounds
variable (addBody : Nat → Array State → Array State) (width : Nat) (greedy : Bool) (next : Nat)

/-- Adds rounds each of which leads to the state after it. -/
def addCopies : Nat → Array State → Array State
  | 0, states => states
  | n + 1, states => addCopies n (addBody (states.size + width) states)

/-- Adds rounds that can be left out, each together with those after it. -/
def addOptional : Nat → Array State → Array State
  | 0, states => states
  | 1, states => addBody next (states.push (.again greedy (states.size + 1) next))
  | n + 2, states =>
    addOptional (n + 1) (addBody (states.size + 1 + width)
      (states.push (.again greedy (states.size + 1) next)))

def addRounds (least : Nat) (most? : Option Nat) (takesSome : Bool) (states : Array State) :
    Array State :=
  let start := states.size
  match least, most? with
  | 0, none =>
    let states := addBody (if takesSome then start else start + 1 + width)
      (states.push (.again greedy (start + 1) next))
    if takesSome then states else states.push (.again greedy (start + 1) next)
  | n + 1, none =>
    let states := addCopies addBody width (n + 1) states
    states.push (.again greedy (start + n * width) next)
  | 0, some 0 => states.push (.pass next)
  | least, some most =>
    if most ≤ least then addBody next (addCopies addBody width (least - 1) states)
    else addOptional addBody width greedy next (most - least)
      (addCopies addBody width least states)

end Rounds

/-- Adds the states of a pattern, after which `next` follows. -/
def add : Pattern → Nat → Array State → Array State
  | .empty, next, states => states.push (.pass next)
  | .literal s, next, states => addText s next states
  | .one set, next, states => states.push (.take set next)
  | .look l, next, states => states.push (.check l next)
  | .seq first second, next, states =>
    add second next (add first (states.size + first.width) states)
  | .alt first second, next, states =>
    let left := states.size + 1
    add second next (add first next (states.push (.fork left (left + first.width))))
  | .group index body, next, states =>
    if index = remembered then
      let inside := states.size + 1
      (add body (inside + body.width) (states.push (.openGroup inside))).push (.closeGroup next)
    else add body next states
  | .rounds least most? greedy body, next, states =>
    addRounds (add body) body.width greedy next least most? body.takesSome states

/-- The machine of a pattern: its states, and behind them the state that is done. -/
def ofPattern (p : Pattern) : Machine := ⟨(add p p.width #[]).push .done⟩

end Machine

end ImportAlias.Pattern
