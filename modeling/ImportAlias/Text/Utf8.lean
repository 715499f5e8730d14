import ImportAlias.Text.Basic

/-!
# UTF-8

UTF-8 on byte lists. `pieces` cuts bytes into well-formed characters and maximal ill-formed
subparts; strict decoding asks for no ill-formed piece, lossy decoding shows each one as U+FFFD.
The two agree wherever the first one succeeds.
-/
namespace ImportAlias.Utf8

def isTail (b : UInt8) : Bool := 0x80 ≤ b && b ≤ 0xBF

/-- The second byte of a three-byte form: no overlong form and no surrogate. -/
def isSecondOfThree (lead b : UInt8) : Bool :=
  if lead == 0xE0 then 0xA0 ≤ b && b ≤ 0xBF
  else if lead == 0xED then 0x80 ≤ b && b ≤ 0x9F
  else isTail b

/-- The second byte of a four-byte form: no overlong form and nothing above U+10FFFF. -/
def isSecondOfFour (lead b : UInt8) : Bool :=
  if lead == 0xF0 then 0x90 ≤ b && b ≤ 0xBF
  else if lead == 0xF4 then 0x80 ≤ b && b ≤ 0x8F
  else isTail b

/-- The six payload bits of a continuation byte. -/
def payload (b : UInt8) : Nat := b.toNat - 0x80

/-- The piece that starts with the byte `a`: a character, or `none` for a maximal ill-formed
subpart, and how many of the bytes after `a` belong to it. -/
def headPiece (a : UInt8) (rest : Bytes) : Option Char × Nat :=
  if a < 0x80 then (some (Char.ofNat a.toNat), 0)
  else if 0xC2 ≤ a && a ≤ 0xDF then
    match rest with
    | b :: _ =>
      if isTail b then (some (Char.ofNat ((a.toNat - 0xC0) * 64 + payload b)), 1) else (none, 0)
    | [] => (none, 0)
  else if 0xE0 ≤ a && a ≤ 0xEF then
    match rest with
    | b :: c :: _ =>
      if !isSecondOfThree a b then (none, 0)
      else if isTail c then
        (some (Char.ofNat (((a.toNat - 0xE0) * 64 + payload b) * 64 + payload c)), 2)
      else (none, 1)
    | [b] => (none, if isSecondOfThree a b then 1 else 0)
    | [] => (none, 0)
  else if 0xF0 ≤ a && a ≤ 0xF4 then
    match rest with
    | b :: c :: d :: _ =>
      if !isSecondOfFour a b then (none, 0)
      else if !isTail c then (none, 1)
      else if isTail d then
        (some (Char.ofNat ((((a.toNat - 0xF0) * 64 + payload b) * 64 + payload c) * 64 +
          payload d)), 3)
      else (none, 2)
    | [b, c] => (none, if !isSecondOfFour a b then 0 else if isTail c then 2 else 1)
    | [b] => (none, if isSecondOfFour a b then 1 else 0)
    | [] => (none, 0)
  else (none, 0)

/-- `skip` bytes still belong to the last piece. -/
def piecesFrom : Nat → Bytes → List (Option Char)
  | _, [] => []
  | skip + 1, _ :: rest => piecesFrom skip rest
  | 0, a :: rest => (headPiece a rest).1 :: piecesFrom (headPiece a rest).2 rest

def pieces (bytes : Bytes) : List (Option Char) := piecesFrom 0 bytes

/-- All characters, if every piece is one. -/
def gather : List (Option Char) → Option Text
  | [] => some []
  | none :: _ => none
  | some c :: rest => (gather rest).map (c :: ·)

def decode? (bytes : Bytes) : Option Text := gather (pieces bytes)

def lossy (bytes : Bytes) : Text := (pieces bytes).map (·.getD '\uFFFD')

def encode (text : Text) : Bytes := text.flatMap String.utf8EncodeChar

theorem map_getD_of_gather {ps : List (Option Char)} {text : Text} (h : gather ps = some text) :
    ps.map (·.getD '\uFFFD') = text := by
  induction ps generalizing text with
  | nil => simpa [gather] using h
  | cons p rest ih =>
    cases p with
    | none => simp [gather] at h
    | some c =>
      obtain ⟨tail, htail, rfl⟩ := Option.map_eq_some_iff.1 h
      simp [ih htail]

theorem lossy_of_decode? {bytes : Bytes} {text : Text} (h : decode? bytes = some text) :
    lossy bytes = text :=
  map_getD_of_gather h

end ImportAlias.Utf8
