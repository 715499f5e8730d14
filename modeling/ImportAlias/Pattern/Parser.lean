import ImportAlias.Pattern.Size
import ImportAlias.Pattern.Token

/-!
# Reading patterns

From tokens to patterns. Groups that are open stand in a stack of frames, each with the
alternatives and items found in it so far and the flags that hold in it. A set that cannot be
allowed is told only when the rest of the pattern is found to be well formed.
-/
namespace ImportAlias.Pattern

namespace Flags

/-- A character, or where case is ignored all characters that differ from it in case only. -/
def char (f : Flags) (c : SpelledChar) : Except Flaw Pattern := do
  let s := CodeSet.char (← c.check f)
  pure (ofSet (SetSyntax.fold f s))

def set (f : Flags) (s : SetSyntax) : Except Flaw Pattern := (s.value f).map ofSet

/-- Any character; unless newlines are included, none that ends a line. -/
def dot (f : Flags) (span : Span) : Except Flaw Pattern :=
  let newline := CodeSet.char '\n'
  if !f.unicode then span.flawed .notText
  else if f.dotAll then .ok (one .all)
  else if f.anyLine then .ok (one (newline.union (.char '\r')).complement)
  else .ok (one newline.complement)

def lineStart (f : Flags) : Pattern :=
  look (if !f.multiLine then .textStart else if f.anyLine then .anyLineStart else .lineStart)

def lineEnd (f : Flags) : Pattern :=
  look (if !f.multiLine then .textEnd else if f.anyLine then .anyLineEnd else .lineEnd)

def wordEdge (f : Flags) (e : WordEdge) : Pattern :=
  look (.word (if f.unicode then .word else .asciiWord) e)

end Flags

/-- A pattern with the depth of what is written in it. A switch of flags matches nothing and cannot
be repeated. -/
structure Item where
  pattern : Pattern
  depth : Nat := 0
  isSwitch : Bool := false

namespace Item

/-- Several items in a row, or several alternatives, are one level deeper than each of them. -/
def join (make : List Pattern → Pattern) (items : List Item) : Item :=
  let depth := items.foldl (fun d i => max d i.depth) 0
  { pattern := make (items.map Item.pattern)
    depth := if items.length ≤ 1 then depth else depth + 1 }

def deeper (i : Item) (make : Pattern → Pattern) : Item :=
  { pattern := make i.pattern, depth := i.depth + 1 }

end Item

/-- A group that is still open, with the last alternative and the last item first. -/
structure Frame where
  start : Nat := 0
  index? : Option Nat := none
  flags : Flags := {}
  alternatives : List Item := []
  items : List Item := []

namespace Frame

def add (f : Frame) (i : Item) : Frame := { f with items := i :: f.items }

def bar (f : Frame) : Frame :=
  { f with alternatives := .join sequence f.items.reverse :: f.alternatives, items := [] }

def finish (f : Frame) : Item := .join Pattern.alternatives f.bar.alternatives.reverse

def close (f : Frame) : Item :=
  f.finish.deeper fun p => match f.index? with
    | some index => group index p
    | none => p

end Frame

def depthLimit : Nat := 250

structure Parsing where
  outer : List Frame := []
  frame : Frame := {}
  /-- The number of numbered groups so far. -/
  groups : Nat := 0
  names : List (Text × Span) := []
  /-- The first part that cannot be allowed. -/
  refused? : Option Flaw := none

namespace Parsing

def add (st : Parsing) (p : Pattern) : Parsing :=
  { st with frame := st.frame.add { pattern := p } }

/-- Adds a part that may have to be refused. -/
def tryAdd (st : Parsing) (p : Except Flaw Pattern) (depth : Nat) : Parsing :=
  match p with
  | .ok p => { st with frame := st.frame.add { pattern := p, depth } }
  | .error f =>
    { st with
      frame := st.frame.add { pattern := .empty, depth }
      refused? := st.refused?.or (some f) }

/-- Nothing stands before an operator at `start` that could be repeated. -/
def nothingToRepeat {α : Type} (start : Nat) : Except Flaw α :=
  Span.flawed ⟨start, start⟩ .nothingToRepeat

/-- Puts the repetition of the last item in its place. -/
def repetition (st : Parsing) (start : Nat) (repeated : Item → Except Flaw Item) :
    Except Flaw Parsing :=
  match st.frame.items with
  | [] => nothingToRepeat start
  | last :: items => do
    if last.isSwitch then nothingToRepeat start
    let last ← repeated last
    pure { st with frame := { st.frame with items := last :: items } }

def openGroup (st : Parsing) (remembers : Bool) (name? : Option Text) (switches : Switches)
    (span : Span) : Except Flaw Parsing :=
  let size := (name?.map List.length).getD 0
  let nameSpan : Span := ⟨span.stop - 1 - size, span.stop - 1⟩
  match name?.bind (st.names.lookup ·) with
  | some earlier => .error { kind := .repeatedName, span := nameSpan, earlier? := some earlier }
  | none =>
    let groups := if remembers then st.groups + 1 else st.groups
    let frame : Frame :=
      { start := span.start
        index? := if remembers then some groups else none
        flags := st.frame.flags.switchAll switches }
    let names := st.names ++ name?.toList.map fun name => (name, nameSpan)
    .ok { st with outer := st.frame :: st.outer, frame, groups, names }

def closeGroup (st : Parsing) (span : Span) : Except Flaw Parsing :=
  match st.outer with
  | [] => span.flawed .unopenedGroup
  | around :: outer => .ok { st with outer, frame := around.add st.frame.close }

def step (st : Parsing) (t : Token.Located) : Except Flaw Parsing :=
  let flags := st.frame.flags
  match t.token with
  | .char c => .ok (st.tryAdd (flags.char c) 0)
  | .set s depth => .ok (st.tryAdd (flags.set s) depth)
  | .dot => .ok (st.tryAdd (flags.dot t.span) 0)
  | .lineStart => .ok (st.add flags.lineStart)
  | .lineEnd => .ok (st.add flags.lineEnd)
  | .textStart => .ok (st.add (.look .textStart))
  | .textEnd => .ok (st.add (.look .textEnd))
  | .wordEdge e => .ok (st.add (flags.wordEdge e))
  | .bar => .ok { st with frame := st.frame.bar }
  | .switch switches =>
    let frame := st.frame.add { pattern := .empty, isSwitch := true }
    .ok { st with frame := { frame with flags := flags.switchAll switches } }
  | .openGroup remembers name? switches => st.openGroup remembers name? switches t.span
  | .closeGroup => st.closeGroup t.span
  | .repetition least most? greedy =>
    let greedy := greedy != flags.swapGreed
    st.repetition t.span.start fun item => .ok (item.deeper (counted least most? greedy))
  | .badCount f => st.repetition t.span.start fun _ => .error f
  | .flaw f => .error f

def finish (st : Parsing) (total : Nat) : Except Flaw Pattern :=
  match st.outer, st.refused? with
  | _ :: _, _ => Span.flawed ⟨st.frame.start, st.frame.start + 1⟩ .unclosedGroup
  | [], refused? =>
    let whole := st.frame.finish
    if depthLimit < whole.depth then Span.flawed ⟨0, total⟩ .tooDeep
    else match refused? with
      | some f => .error f
      | none => if whole.pattern.fits then .ok whole.pattern else Span.flawed ⟨0, total⟩ .tooLarge

end Parsing

def parse (s : Text) : Except Flaw Pattern := do
  let st ← (tokens s).foldlM Parsing.step {}
  st.finish s.length

end ImportAlias.Pattern
