import ImportAlias.Pattern.Basic
import ImportAlias.Pattern.SetSyntax
import ImportAlias.Text.Blank

/-!
# Tokens of a pattern

The tokens of a written pattern: characters, escapes, bracketed sets, and the marks of groups,
flags and repetitions. A flaw ends the list of tokens. A place in the pattern is given by the text
that is left there, and `total` is the length of the whole pattern. In a spaced pattern, blanks and
comments may stand between tokens and between most of their characters.
-/
namespace ImportAlias.Pattern

inductive Token where
  | char (c : SpelledChar)
  /-- A set, and how deep the brackets in it are nested. -/
  | set (s : SetSyntax) (depth : Nat)
  | dot
  | lineStart
  | lineEnd
  | textStart
  | textEnd
  | wordEdge (e : WordEdge)
  | openGroup (remembers : Bool) (name? : Option Text) (switches : Switches)
  | switch (switches : Switches)
  | closeGroup
  | bar
  | repetition (least : Nat) (most? : Option Nat) (greedy : Bool)
  | flaw (f : Flaw)
  /-- A repetition whose bounds have a flaw. -/
  | badCount (f : Flaw)
  deriving DecidableEq

structure Token.Located where
  token : Token
  span : Span

/-- Drops blanks and comments; `inComment` says that a comment has begun. -/
def dropSpaceFrom : Bool → Text → Text
  | _, [] => []
  | true, c :: rest => dropSpaceFrom (c ≠ '\n') rest
  | false, c :: rest =>
    if isBlank c then dropSpaceFrom false rest
    else if c = '#' then dropSpaceFrom true rest
    else c :: rest

section Reading
variable (total : Nat) (spaced : Bool)

def dropSpace (s : Text) : Text := if spaced then dropSpaceFrom false s else s

/-- The part between two places. -/
def spanOf (start stop : Text) : Span := ⟨total - start.length, total - stop.length⟩

/-- The flaw between two places. -/
def flawed {α : Type} (kind : Flaw.Kind) (start stop : Text) : Except Flaw α :=
  (spanOf total start stop).flawed kind

/-! Escapes -/

inductive Escape where
  | char (c : SpelledChar)
  | set (s : SetSyntax)
  | textStart
  | textEnd
  | wordEdge (e : WordEdge)

/-- As many hexadecimal digits as asked for. -/
def readHexDigits : Nat → Text → Except Flaw (Text × Text)
  | 0, s => .ok ([], s)
  | _ + 1, [] => flawed total .unfinishedEscape [] []
  | n + 1, c :: rest =>
    if (hexValue? c).isNone then flawed total .notAHexDigit (c :: rest) rest
    else (readHexDigits n (dropSpace spaced rest)).map fun (ds, after) => (c :: ds, after)

/-- The characters up to a closing brace, each of which has to be allowed, and the text behind the
brace. -/
def readBraced (allowed : Char → Bool) (opening : Text) : Nat → Text → Except Flaw (Text × Text)
  | 0, _ | _ + 1, [] => flawed total .unfinishedEscape opening []
  | fuel + 1, c :: rest =>
    if c = '\x7d' then .ok ([], rest)
    else if !allowed c then flawed total .notAHexDigit (c :: rest) rest
    else (readBraced allowed opening fuel (dropSpace spaced rest)).map fun (cs, after) =>
      (c :: cs, after)

/-- A character by its code, in `size` digits or in braces. Only two digits are a byte. -/
def readHex (start : Text) (size : Nat) (s : Text) : Except Flaw (Escape × Text) := do
  let s := dropSpace spaced s
  let isHex (c : Char) : Bool := (hexValue? c).isSome
  let isBraced := s.head? = some '\x7b'
  let (digits, rest) ←
    if isBraced then readBraced total spaced isHex s s.length (dropSpace spaced (s.drop 1))
    else readHexDigits total spaced size s
  if digits = [] then flawed total .emptyHex s rest
  else
    let code := hexNumber digits
    if code.isValidChar then
      pure (.char ⟨Char.ofNat code, size = 2 && !isBraced, spanOf total start rest⟩, rest)
    else if isBraced then flawed total .notAChar (s.drop 1) ('\x7d' :: rest)
    else flawed total .notAChar s rest

/-- Splits at the first place where `mark` stands. -/
def splitAt? (mark : Text) : Text → Option (Text × Text)
  | [] => none
  | c :: rest =>
    match restAfter? mark (c :: rest) with
    | some after => some ([], after)
    | none => (splitAt? mark rest).map fun (before, after) => (c :: before, after)

/-- A property with its value, if one of the marks before a value is there. -/
def propertyQuery (s : Text) : PropertyQuery :=
  let found? := ["!=", ":", "="].findSome? fun mark => splitAt? mark.toList s
  match found? with
  | some (name, value) => { name, value? := some value }
  | none => { name := s }

/-- The property after its letter: one character, or a name in braces. -/
def readProperty (start : Text) (negated : Bool) (s : Text) : Except Flaw (Escape × Text) :=
  let set (q : PropertyQuery) (rest : Text) : Escape × Text :=
    (.set (.property q negated (spanOf total start rest)), rest)
  match dropSpace spaced s with
  | [] => flawed total .unfinishedEscape [] []
  | '\x7b' :: inside => do
    let inside := dropSpace spaced inside
    let (name, rest) ← readBraced total spaced (fun _ => true) [] (inside.length + 1) inside
    pure (set (propertyQuery name) rest)
  | '\\' :: rest => flawed total .badProperty ('\\' :: rest) rest
  | c :: rest => .ok (set { name := [c] } (dropSpace spaced rest))

/-- What may stand in braces after the mark of a word edge. -/
def wordEdges : List (String × WordEdge) :=
  [("start", .start), ("end", .stop), ("start-half", .noWordBefore), ("end-half", .noWordAfter)]

def isEdgeNameChar (c : Char) : Bool := (c.toNat < 128 && c.isAlpha) || c = '-'

/-- The letters of the name of a word edge, and the text behind them. -/
def readEdgeName : Nat → Text → Text × Text
  | 0, s => ([], s)
  | _ + 1, [] => ([], [])
  | fuel + 1, c :: rest =>
    if isEdgeNameChar c then
      let (cs, after) := readEdgeName fuel (dropSpace spaced rest)
      (c :: cs, after)
    else ([], c :: rest)

/-- The word edge after its mark at `start`. Braces that hold no letters are left for a
repetition. -/
def readWordEdge (start s : Text) : Except Flaw (WordEdge × Text) :=
  match s with
  | '\x7b' :: rest =>
    let inside := dropSpace spaced rest
    match inside with
    | [] => flawed total .unfinishedWordEdge start []
    | c :: _ =>
      if !isEdgeNameChar c then .ok (.edge, s)
      else
        let (name, after) := readEdgeName spaced inside.length inside
        match after with
        | '\x7d' :: rest =>
          match wordEdges.lookup (String.ofList name) with
          | some e => .ok (e, rest)
          | none => flawed total .unknownWordEdge inside after
        | _ => flawed total .unclosedWordEdge s after
  | _ => .ok (.edge, s)

def isEscapable (c : Char) : Bool := c.toNat < 128 && !c.isAlphanum && c ≠ '<' && c ≠ '>'

/-- What an escape stands for, from its backslash at `start`. -/
def readEscape (start : Text) : Text → Except Flaw (Escape × Text)
  | [] => flawed total .unfinishedEscape start []
  | c :: rest =>
    let span := spanOf total start rest
    let char (c : Char) : Except Flaw (Escape × Text) := .ok (.char { char := c, span }, rest)
    let shorthand (s : Shorthand) (negated : Bool) : Except Flaw (Escape × Text) :=
      .ok (.set (.shorthand s negated span), rest)
    if c.isDigit then flawed total .backreference start rest
    else match c with
      | 'x' => readHex total spaced start 2 rest
      | 'u' => readHex total spaced start 4 rest
      | 'U' => readHex total spaced start 8 rest
      | 'p' => readProperty total spaced start false rest
      | 'P' => readProperty total spaced start true rest
      | 'd' => shorthand .digit false
      | 'D' => shorthand .digit true
      | 's' => shorthand .blank false
      | 'S' => shorthand .blank true
      | 'w' => shorthand .word false
      | 'W' => shorthand .word true
      | 'a' => char '\x07'
      | 'f' => char '\x0c'
      | 't' => char '\t'
      | 'n' => char '\n'
      | 'r' => char '\r'
      | 'v' => char '\x0b'
      | 'A' => .ok (.textStart, rest)
      | 'z' => .ok (.textEnd, rest)
      | 'b' => (readWordEdge total spaced start rest).map fun (e, after) => (.wordEdge e, after)
      | 'B' => .ok (.wordEdge .noEdge, rest)
      | '<' => .ok (.wordEdge .start, rest)
      | '>' => .ok (.wordEdge .stop, rest)
      | _ => if isEscapable c then char c else flawed total .unknownEscape start rest

/-! Bracketed sets -/

def codes (rs : List (Char × Char)) : List CodeRange := rs.map fun (a, b) => (a.toNat, b.toNat)

/-- Sets that have a name between `[:` and `:]`. -/
def namedSets : List (String × List CodeRange) :=
  [("alnum", codes [('0', '9'), ('A', 'Z'), ('a', 'z')]),
    ("alpha", codes [('A', 'Z'), ('a', 'z')]),
    ("ascii", codes [('\x00', '\x7f')]),
    ("blank", codes [('\t', '\t'), (' ', ' ')]),
    ("cntrl", codes [('\x00', '\x1f'), ('\x7f', '\x7f')]),
    ("digit", codes [('0', '9')]),
    ("graph", codes [('!', '~')]),
    ("lower", codes [('a', 'z')]),
    ("print", codes [(' ', '~')]),
    ("punct", codes [('!', '/'), (':', '@'), ('[', '\x60'), ('\x7b', '~')]),
    ("space", codes [('\t', '\r'), (' ', ' ')]),
    ("upper", codes [('A', 'Z')]),
    ("word", codes [('0', '9'), ('A', 'Z'), ('_', '_'), ('a', 'z')]),
    ("xdigit", codes [('0', '9'), ('A', 'F'), ('a', 'f')])]

/-- A named set after its first bracket at `start`, if there is one. -/
def readNamedSet? (start : Text) : Text → Option (SetSyntax × Text)
  | ':' :: s =>
    let negated := s.head? = some '^'
    let s := if negated then s.drop 1 else s
    let name := s.takeWhile (· ≠ ':')
    match restAfter? [':', ']'] (s.drop name.length) with
    | none => none
    | some rest =>
      (namedSets.lookup (String.ofList name)).map fun ranges =>
        (.listed ranges negated (spanOf total start rest), rest)
  | _ => none

/-- A set whose closing bracket has not come yet: what stands before the last operation, and the
members after it, with their number and the greatest depth among them. -/
structure OpenSet where
  negated : Bool
  start : Nat
  stop : Nat
  left? : Option (SetOperation × SetSyntax × Nat) := none
  members : SetSyntax := .none
  count : Nat := 0
  depth : Nat := 0

namespace OpenSet

def add (o : OpenSet) (set : SetSyntax) (depth : Nat) : OpenSet :=
  { o with
    members := if o.count = 0 then set else .union o.members set
    count := o.count + 1
    depth := max o.depth depth }

def value (o : OpenSet) : SetSyntax × Nat :=
  let depth := if o.count ≤ 1 then o.depth else o.depth + 1
  match o.left? with
  | none => (o.members, depth)
  | some (op, left, leftDepth) => (.operation op left o.members, max leftDepth depth + 1)

def operation (o : OpenSet) (op : SetOperation) : OpenSet :=
  { o with left? := some (op, o.value), members := .none, count := 0, depth := 0 }

/-- The set, whose closing bracket ends at `stop`. -/
def close (o : OpenSet) (stop : Nat) : SetSyntax × Nat :=
  (.bracket o.negated o.value.1 ⟨o.start, stop⟩, o.value.2 + 1)

def unclosed {α : Type} (o : OpenSet) : Except Flaw α :=
  Span.flawed ⟨o.start, o.stop⟩ .unclosedSet

end OpenSet

/-- Takes minus signs off the start of a text. -/
def takeMinuses : Nat → Text → List Text × Text
  | fuel + 1, '-' :: rest =>
    let (more, after) := takeMinuses fuel (dropSpace spaced rest)
    (('-' :: rest) :: more, after)
  | _, s => ([], s)

/-- What follows an opening bracket at `start`. Minus signs that come first are members, and so is
a closing bracket that comes first. -/
def openSet (start s : Text) : Except Flaw (OpenSet × Text) :=
  let s := dropSpace spaced s
  let negated := s.head? = some '^'
  let s := if negated then dropSpace spaced (s.drop 1) else s
  let (minuses, rest) := takeMinuses spaced s.length s
  let opened (members : List Text) (rest : Text) : OpenSet × Text :=
    let o : OpenSet := { negated, start := total - start.length, stop := total - rest.length }
    let spelled (place : Text) : SetSyntax :=
      .char { char := place.head?.getD '-', span := spanOf total place (place.drop 1) }
    (members.foldl (fun o place => o.add (spelled place) 0) o, rest)
  match minuses, rest with
  | [], [] => flawed total .unclosedSet start []
  | _, [] => flawed total .unclosedSet start start
  | [], ']' :: after =>
    match dropSpace spaced after with
    | [] => flawed total .unclosedSet start []
    | after => .ok (opened [rest] after)
  | _, _ => .ok (opened minuses rest)

/-- One member of a set, or one end of a range. -/
def readEnd (s : Text) : Except Flaw (Escape × Text) :=
  match s with
  | [] => flawed total .unclosedSet [] []
  | '\\' :: rest => readEscape total spaced s rest
  | c :: rest => .ok (.char { char := c, span := spanOf total s rest }, rest)

def memberSet (e : Escape) (start stop : Text) : Except Flaw SetSyntax :=
  match e with
  | .char c => .ok (.char c)
  | .set s => .ok s
  | _ => flawed total .escapeInSet start stop

def rangeEnd (e : Escape) (start stop : Text) : Except Flaw SpelledChar :=
  match e with
  | .char c => .ok c
  | _ => flawed total .rangeWithoutChar start stop

/-- The first character that is neither a blank nor the mark of a comment. Where there is none, the
first character of all. -/
def peek (s : Text) : Option Char :=
  if !spaced then s.head?
  else
    let after := s.dropWhile isBlank
    let after := if after.head? = some '#' then (after.drop 1).dropWhile isBlank else after
    after.head?.or s.head?

/-- A member, or a range if a minus sign and a further member follow. -/
def readMember (o : OpenSet) (s : Text) : Except Flaw (SetSyntax × Text) := do
  let (first, stop) ← readEnd total spaced s
  let rest := dropSpace spaced stop
  match rest with
  | [] => o.unclosed
  | '-' :: after =>
    if peek spaced after = some ']' || peek spaced after = some '-' then
      pure (← memberSet total first s stop, rest)
    else match dropSpace spaced after with
      | [] => o.unclosed
      | upper =>
        let (last, after) ← readEnd total spaced upper
        let a ← rangeEnd total first s stop
        let b ← rangeEnd total last upper after
        if a.char ≤ b.char then pure (.range a b, after)
        else flawed total .descendingRange s after
  | _ => pure (← memberSet total first s stop, rest)

/-- The members of a set up to its closing bracket, with the depth of the set. Sets may stand in
sets; `outer` holds those that are open around the present one. -/
def readSetFrom : Nat → List OpenSet → OpenSet → Text → Except Flaw (SetSyntax × Nat × Text)
  | 0, _, o, _ => o.unclosed
  | fuel + 1, outer, o, s =>
    let s := dropSpace spaced s
    match s with
    | [] => o.unclosed
    | '[' :: rest =>
      match readNamedSet? total s rest with
      | some (set, after) => readSetFrom fuel outer (o.add set 0) after
      | none =>
        match openSet total spaced s rest with
        | .ok (inner, after) => readSetFrom fuel (o :: outer) inner after
        | .error f => .error f
    | ']' :: rest =>
      let (set, depth) := o.close (total - rest.length)
      match outer with
      | [] => .ok (set, depth, rest)
      | around :: outer => readSetFrom fuel outer (around.add set depth) rest
    | '&' :: '&' :: rest => readSetFrom fuel outer (o.operation .inter) rest
    | '-' :: '-' :: rest => readSetFrom fuel outer (o.operation .diff) rest
    | '~' :: '~' :: rest => readSetFrom fuel outer (o.operation .symmDiff) rest
    | _ =>
      match readMember total spaced o s with
      | .ok (set, after) => readSetFrom fuel outer (o.add set 0) after
      | .error f => .error f

/-- The set whose opening bracket is at `start`. -/
def readSet (start rest : Text) : Except Flaw (Token × Text) := do
  let (o, s) ← openSet total spaced start rest
  let (set, depth, after) ← readSetFrom total spaced (s.length + 1) [] o s
  pure (.set set depth, after)

/-! Repetitions -/

/-- Whether a question mark follows, which makes a repetition lazy. -/
def readLazy : Text → Bool × Text
  | '?' :: rest => (true, rest)
  | rest => (false, rest)

def takeDigits : Nat → Text → Text × Text
  | 0, s => ([], s)
  | _ + 1, [] => ([], [])
  | fuel + 1, c :: rest =>
    if c.isDigit then
      let (ds, after) := takeDigits fuel (dropSpace spaced rest)
      (c :: ds, after)
    else ([], c :: rest)

/-- Drops blanks, and in a spaced pattern comments after them. -/
def dropBlanks (s : Text) : Text :=
  match s with
  | c :: rest => if isBlank c then dropSpace spaced (rest.dropWhile isBlank) else s
  | [] => []

def readDecimal (s : Text) : Except Flaw Nat × Text :=
  let s := s.dropWhile isBlank
  let (digits, rest) := takeDigits spaced s.length s
  let value := digits.foldl (fun n d => 10 * n + (d.toNat - '0'.toNat)) 0
  let read :=
    if digits = [] then flawed total .emptyCount s rest
    else if value < 0x100000000 then .ok value
    else flawed total .decimalTooLarge s rest
  (read, dropBlanks spaced rest)

/-- The bounds between two braces, the first of them at `start`. -/
def readBounds (start s : Text) : Except Flaw ((Nat × Option Nat) × Text) :=
  match dropSpace spaced s with
  | [] => flawed total .unclosedCount start []
  | s =>
    let (least, rest) := readDecimal total spaced s
    match rest with
    | [] => flawed total .unclosedCount start []
    | ',' :: rest =>
      match dropSpace spaced rest with
      | [] => flawed total .unclosedCount start []
      | '\x7d' :: after => do pure ((← least, none), after)
      | rest => do
        let least ← least
        let (most, after) := readDecimal total spaced rest
        close (least, some (← most)) after
    | _ => do
      let least ← least
      close (least, some least) rest
where
  close (bounds : Nat × Option Nat) : Text → Except Flaw ((Nat × Option Nat) × Text)
    | '\x7d' :: after => .ok (bounds, after)
    | after => flawed total .unclosedCount start after

/-- A flaw ends the pattern. -/
def readCounted (start s : Text) : Token × Text :=
  match readBounds total spaced start s with
  | .error f => (.badCount f, [])
  | .ok ((least, most?), rest) =>
    let (isLazy, after) := readLazy (dropSpace spaced rest)
    if most?.all (least ≤ ·) then (.repetition least most? !isLazy, after)
    else (.badCount { kind := .descendingCount, span := spanOf total start after }, [])

/-! Groups -/

/-- The flaw of the character at `place`, which repeats the one at `earlier`. -/
def repeated {α : Type} (kind : Flaw.Kind) (earlier place : Text) : Except Flaw α :=
  .error { kind, span := spanOf total place (place.drop 1)
           earlier? := some (spanOf total earlier (earlier.drop 1)) }

/-- A flag with its new value, and its place. -/
abbrev PlacedFlag := (Flag × Bool) × Text

/-- Flags up to a colon or a closing parenthesis, which of the two it is, and the rest. `minus?` is
the place of the minus sign, and `dangling` says that nothing has followed it yet. -/
def readSwitches (minus? : Option Text) (dangling : Bool) (found : List PlacedFlag) :
    Text → Except Flaw (Switches × Bool × Text)
  | [] => flawed total .unfinishedFlags [] []
  | c :: rest =>
    let place := c :: rest
    if c = ':' || c = ')' then
      match minus?, dangling with
      | some minus, true => flawed total .danglingMinus minus (minus.drop 1)
      | _, _ => .ok (found.map Prod.fst, c = ':', rest)
    else if c = '-' then
      match minus? with
      | some minus => repeated total .repeatedMinus minus place
      | none => readSwitches (some place) true found rest
    else match Flag.ofChar? c with
      | none => flawed total .unknownFlag place rest
      | some f =>
        match found.find? (·.1.1 = f) with
        | some (_, earlier) => repeated total .repeatedFlag earlier place
        | none => readSwitches minus? false (found ++ [((f, minus?.isNone), place)]) rest

def isNameChar (isFirst : Bool) (c : Char) : Bool :=
  c = '_' || CodeSet.alphabetic.has c ||
    (!isFirst && (c = '.' || c = '[' || c = ']' || CodeSet.numeric.has c))

def readName (s : Text) : Except Flaw (Text × Text) :=
  let name := s.takeWhile (· ≠ '>')
  let good := (name.take 1).takeWhile (isNameChar true) ++
    (name.drop 1).takeWhile (isNameChar false)
  let isGood := (name.take 1).all (isNameChar true) && (name.drop 1).all (isNameChar false)
  if !isGood then flawed total .badName (s.drop good.length) (s.drop (good.length + 1))
  else match s.drop name.length with
    | [] => flawed total .unfinishedName [] []
    | _ :: rest => if name = [] then flawed total .emptyName s s else .ok (name, rest)

/-- What follows an opening parenthesis at `start`. -/
def readGroup (start s : Text) : Except Flaw (Token × Text) :=
  let s := dropSpace spaced s
  match s with
  | '?' :: '=' :: rest | '?' :: '!' :: rest => flawed total .lookAround start rest
  | '?' :: '<' :: '=' :: rest | '?' :: '<' :: '!' :: rest => flawed total .lookAround start rest
  | '?' :: 'P' :: '<' :: rest | '?' :: '<' :: rest => do
    let (name, after) ← readName total rest
    pure (.openGroup true (some name) [], after)
  | ['?'] => flawed total .unclosedGroup start (start.drop 1)
  | '?' :: rest => do
    let (switches, opens, after) ← readSwitches total none false [] rest
    if opens then pure (.openGroup false none switches, after)
    else if switches = [] then flawed total .nothingToRepeat s s
    else pure (.switch switches, after)
  | _ => .ok (.openGroup true none [], s)

/-- The first token of a text that starts with `c`. -/
def readToken (c : Char) (rest : Text) : Except Flaw (Token × Text) :=
  let start := c :: rest
  let (isLazy, after) := readLazy rest
  match c with
  | '\\' => do
    let (e, after) ← readEscape total spaced start rest
    pure (match e with
      | .char c => .char c
      | .set s => .set s 0
      | .textStart => .textStart
      | .textEnd => .textEnd
      | .wordEdge e => .wordEdge e, after)
  | '[' => readSet total spaced start rest
  | '(' => readGroup total spaced start rest
  | ')' => .ok (.closeGroup, rest)
  | '|' => .ok (.bar, rest)
  | '?' => .ok (.repetition 0 (some 1) !isLazy, after)
  | '*' => .ok (.repetition 0 none !isLazy, after)
  | '+' => .ok (.repetition 1 none !isLazy, after)
  | '\x7b' => .ok (readCounted total spaced start rest)
  | '.' => .ok (.dot, rest)
  | '^' => .ok (.lineStart, rest)
  | '$' => .ok (.lineEnd, rest)
  | _ => .ok (.char { char := c, span := spanOf total start rest }, rest)

end Reading

/-- Whether blanks count after some switches. -/
def Switches.spaced (switches : Switches) (before : Bool) : Bool :=
  (switches.lookup .spaced).getD before

/-- Whether the pattern is spaced behind a token, in the present group and in those around it. -/
def spacedAfter (spaced : Bool) (outer : List Bool) : Token → Bool × List Bool
  | .switch switches => (switches.spaced spaced, outer)
  | .openGroup _ _ switches => (switches.spaced spaced, spaced :: outer)
  | .closeGroup => (outer.head?.getD spaced, outer.drop 1)
  | _ => (spaced, outer)

/-- Every token takes at least one character, so the length is fuel enough. -/
def tokensFrom (total : Nat) : Nat → Bool → List Bool → Text → List Token.Located
  | 0, _, _, _ => []
  | fuel + 1, spaced, outer, s =>
    match dropSpace spaced s with
    | [] => []
    | c :: rest =>
      match readToken total spaced c rest with
      | .ok (token, after) =>
        let (spaced, outer) := spacedAfter spaced outer token
        ⟨token, spanOf total (c :: rest) after⟩ :: tokensFrom total fuel spaced outer after
      | .error f => [⟨.flaw f, f.span⟩]

def tokens (s : Text) : List Token.Located := tokensFrom s.length s.length false [] s

end ImportAlias.Pattern
