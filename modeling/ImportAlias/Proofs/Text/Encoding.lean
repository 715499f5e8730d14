import ImportAlias.Text.Utf8

/-!
# Reading back what was written

The bytes of a text are cut into the characters of the text again, so that decoding gives the text
back. Bytes that can be decoded are those of the text that they are decoded to, and of no other.
-/
namespace ImportAlias.Utf8

section Forms
variable {a b c d : UInt8} {rest : Bytes}

theorem inRange_iff {lo hi : UInt8} :
    (decide (lo ≤ b) && decide (b ≤ hi)) = true ↔ lo.toNat ≤ b.toNat ∧ b.toNat ≤ hi.toNat := by
  simp [UInt8.le_iff_toNat_le]

theorem not_inRange_of_toNat {lo hi : UInt8} (h : hi.toNat < b.toNat) :
    ¬ (decide (lo ≤ b) && decide (b ≤ hi)) = true := by
  rw [inRange_iff]
  omega

theorem not_ascii_of_toNat (ha : 128 ≤ a.toNat) : ¬ a < 0x80 := by
  rw [UInt8.lt_iff_toNat_lt]
  exact Nat.not_lt.2 ha

theorem isTail_of_toNat (hb : 0x80 ≤ b.toNat ∧ b.toNat ≤ 0xBF) : isTail b = true :=
  inRange_iff.2 hb

theorem isSecondOfThree_of_toNat (hb : 0x80 ≤ b.toNat ∧ b.toNat ≤ 0xBF)
    (hlow : a.toNat = 0xE0 → 0xA0 ≤ b.toNat) (hhigh : a.toNat = 0xED → b.toNat ≤ 0x9F) :
    isSecondOfThree a b = true := by
  unfold isSecondOfThree
  split
  · rename_i ha
    rw [beq_iff_eq] at ha
    exact inRange_iff.2 ⟨hlow (by rw [ha]; rfl), hb.2⟩
  · split
    · rename_i ha
      rw [beq_iff_eq] at ha
      exact inRange_iff.2 ⟨hb.1, hhigh (by rw [ha]; rfl)⟩
    · exact isTail_of_toNat hb

theorem isSecondOfFour_of_toNat (hb : 0x80 ≤ b.toNat ∧ b.toNat ≤ 0xBF)
    (hlow : a.toNat = 0xF0 → 0x90 ≤ b.toNat) (hhigh : a.toNat = 0xF4 → b.toNat ≤ 0x8F) :
    isSecondOfFour a b = true := by
  unfold isSecondOfFour
  split
  · rename_i ha
    rw [beq_iff_eq] at ha
    exact inRange_iff.2 ⟨hlow (by rw [ha]; rfl), hb.2⟩
  · split
    · rename_i ha
      rw [beq_iff_eq] at ha
      exact inRange_iff.2 ⟨hb.1, hhigh (by rw [ha]; rfl)⟩
    · exact isTail_of_toNat hb

theorem headPiece_one (ha : a.toNat < 0x80) :
    headPiece a rest = (some (Char.ofNat a.toNat), 0) := by
  unfold headPiece
  exact if_pos (UInt8.lt_iff_toNat_lt.2 ha)

theorem headPiece_two (ha : 0xC2 ≤ a.toNat ∧ a.toNat ≤ 0xDF)
    (hb : 0x80 ≤ b.toNat ∧ b.toNat ≤ 0xBF) :
    headPiece a (b :: rest) =
      (some (Char.ofNat ((a.toNat - 0xC0) * 64 + (b.toNat - 0x80))), 1) := by
  have hone : ¬ a < 0x80 := not_ascii_of_toNat (by omega)
  have hlead : (decide (0xC2 ≤ a) && decide (a ≤ 0xDF)) = true := inRange_iff.2 ha
  unfold headPiece
  rw [if_neg hone, if_pos hlead]
  exact if_pos (isTail_of_toNat hb)

theorem headPiece_three (ha : 0xE0 ≤ a.toNat ∧ a.toNat ≤ 0xEF)
    (hb : isSecondOfThree a b = true) (hc : 0x80 ≤ c.toNat ∧ c.toNat ≤ 0xBF) :
    headPiece a (b :: c :: rest) = (some (Char.ofNat
      (((a.toNat - 0xE0) * 64 + (b.toNat - 0x80)) * 64 + (c.toNat - 0x80))), 2) := by
  have hone : ¬ a < 0x80 := not_ascii_of_toNat (by omega)
  have htwo : ¬ (decide (0xC2 ≤ a) && decide (a ≤ 0xDF)) = true :=
    not_inRange_of_toNat (show 223 < a.toNat by omega)
  have hlead : (decide (0xE0 ≤ a) && decide (a ≤ 0xEF)) = true := inRange_iff.2 ha
  unfold headPiece
  rw [if_neg hone, if_neg htwo, if_pos hlead]
  change (if (!isSecondOfThree a b) = true then _ else if isTail c = true then _ else _) = _
  rw [hb, if_pos (isTail_of_toNat hc)]
  rfl

theorem headPiece_four (ha : 0xF0 ≤ a.toNat ∧ a.toNat ≤ 0xF4)
    (hb : isSecondOfFour a b = true) (hc : 0x80 ≤ c.toNat ∧ c.toNat ≤ 0xBF)
    (hd : 0x80 ≤ d.toNat ∧ d.toNat ≤ 0xBF) :
    headPiece a (b :: c :: d :: rest) = (some (Char.ofNat
      ((((a.toNat - 0xF0) * 64 + (b.toNat - 0x80)) * 64 + (c.toNat - 0x80)) * 64 +
        (d.toNat - 0x80))), 3) := by
  have hone : ¬ a < 0x80 := not_ascii_of_toNat (by omega)
  have htwo : ¬ (decide (0xC2 ≤ a) && decide (a ≤ 0xDF)) = true :=
    not_inRange_of_toNat (show 223 < a.toNat by omega)
  have hthree : ¬ (decide (0xE0 ≤ a) && decide (a ≤ 0xEF)) = true :=
    not_inRange_of_toNat (show 239 < a.toNat by omega)
  have hlead : (decide (0xF0 ≤ a) && decide (a ≤ 0xF4)) = true := inRange_iff.2 ha
  unfold headPiece
  rw [if_neg hone, if_neg htwo, if_neg hthree, if_pos hlead]
  change (if (!isSecondOfFour a b) = true then _ else if (!isTail c) = true then _
    else if isTail d = true then _ else _) = _
  rw [hb, isTail_of_toNat hc, if_pos (isTail_of_toNat hd)]
  rfl

end Forms

theorem toNat_ofNat {n : Nat} (h : n < 256) : (UInt8.ofNat n).toNat = n := by
  simpa using Nat.mod_eq_of_lt h

theorem piecesFrom_append (front rest : Bytes) :
    piecesFrom front.length (front ++ rest) = piecesFrom 0 rest := by
  induction front with
  | nil => rfl
  | cons _ front ih => exact ih

theorem pieces_cons_append {a : UInt8} {front rest : Bytes} {v w : Nat}
    (hhead : headPiece a (front ++ rest) = (some (Char.ofNat w), front.length)) (hvalue : w = v) :
    pieces (a :: front ++ rest) = some (Char.ofNat v) :: pieces rest := by
  rw [List.cons_append, pieces, piecesFrom, hhead, piecesFrom_append, hvalue]
  rfl

/-- The first piece of a character's bytes is the character, with all of its bytes. -/
theorem pieces_encodeChar_append (c : Char) (rest : Bytes) :
    pieces (String.utf8EncodeChar c ++ rest) = some c :: pieces rest := by
  have hchar : Char.ofNat c.val.toNat = c := Char.ofNat_toNat c
  have hvalid : c.val.toNat < 0xD800 ∨ 0xDFFF < c.val.toNat ∧ c.val.toNat < 0x110000 := c.valid
  unfold String.utf8EncodeChar
  dsimp only
  generalize c.val.toNat = v at hchar hvalid
  subst hchar
  split
  · have ha := toNat_ofNat (n := v) (by omega)
    exact pieces_cons_append (headPiece_one (by omega)) ha
  · split
    · have ha := toNat_ofNat (n := v / 64 % 32 + 192) (by omega)
      have hb := toNat_ofNat (n := v % 64 + 128) (by omega)
      exact pieces_cons_append (headPiece_two (by omega) (by omega)) (by omega)
    · split
      · have ha := toNat_ofNat (n := v / 4096 % 16 + 224) (by omega)
        have hb := toNat_ofNat (n := v / 64 % 64 + 128) (by omega)
        have hc := toNat_ofNat (n := v % 64 + 128) (by omega)
        have hsecond := isSecondOfThree_of_toNat (a := UInt8.ofNat (v / 4096 % 16 + 224))
          (b := UInt8.ofNat (v / 64 % 64 + 128)) (by omega) (by omega) (by omega)
        exact pieces_cons_append (headPiece_three (by omega) hsecond (by omega)) (by omega)
      · have ha := toNat_ofNat (n := v / 262144 % 8 + 240) (by omega)
        have hb := toNat_ofNat (n := v / 4096 % 64 + 128) (by omega)
        have hc := toNat_ofNat (n := v / 64 % 64 + 128) (by omega)
        have hd := toNat_ofNat (n := v % 64 + 128) (by omega)
        have hsecond := isSecondOfFour_of_toNat (a := UInt8.ofNat (v / 262144 % 8 + 240))
          (b := UInt8.ofNat (v / 4096 % 64 + 128)) (by omega) (by omega) (by omega)
        exact pieces_cons_append (headPiece_four (by omega) hsecond (by omega) (by omega))
          (by omega)

theorem decode?_encode (text : Text) : decode? (encode text) = some text := by
  induction text with
  | nil => rfl
  | cons c text ih =>
    rw [encode, List.flatMap_cons, decode?, pieces_encodeChar_append, gather]
    rw [decode?, encode] at ih
    rw [ih]
    rfl

theorem encode_injective {text text' : Text} (h : encode text = encode text') : text = text' := by
  have hdecode := decode?_encode text
  rw [h, decode?_encode] at hdecode
  exact (Option.some.inj hdecode).symm

section Values
variable {a b c d : UInt8} {rest : Bytes}

theorem toNat_val_ofNat {v : Nat} (h : v < 0xD800 ∨ 0xDFFF < v ∧ v < 0x110000) :
    (Char.ofNat v).val.toNat = v := by
  unfold Char.ofNat
  rw [dif_pos h]
  rfl

theorem ofNat_of_toNat {n : Nat} (h : n = a.toNat) : UInt8.ofNat n = a := by
  subst h
  exact UInt8.ofNat_toNat

theorem toNat_of_isTail (h : isTail b = true) : 0x80 ≤ b.toNat ∧ b.toNat ≤ 0xBF :=
  inRange_iff.1 h

/-- The second byte has a narrower range after two of the leading bytes. -/
theorem toNat_of_second (low high lo hi : UInt8) (hne : high ≠ low) (hlo : 0x80 ≤ lo.toNat)
    (hhi : hi.toNat ≤ 0xBF)
    (h : (if a == low then lo ≤ b && b ≤ 0xBF else if a == high then 0x80 ≤ b && b ≤ hi
      else isTail b) = true) :
    (0x80 ≤ b.toNat ∧ b.toNat ≤ 0xBF) ∧ (a = low → lo.toNat ≤ b.toNat) ∧
      (a = high → b.toNat ≤ hi.toNat) := by
  split at h
  · rename_i ha
    obtain rfl := beq_iff_eq.1 ha
    have hb : lo.toNat ≤ b.toNat ∧ b.toNat ≤ 0xBF := inRange_iff.1 h
    exact ⟨⟨by omega, hb.2⟩, fun _ => hb.1, fun heq => absurd heq.symm hne⟩
  · rename_i hlow
    split at h
    · rename_i ha
      obtain rfl := beq_iff_eq.1 ha
      have hb : 0x80 ≤ b.toNat ∧ b.toNat ≤ hi.toNat := inRange_iff.1 h
      exact ⟨⟨hb.1, by omega⟩, fun heq => absurd heq hne, fun _ => hb.2⟩
    · rename_i hhigh
      exact ⟨toNat_of_isTail h, fun heq => absurd (beq_iff_eq.2 heq) hlow,
        fun heq => absurd (beq_iff_eq.2 heq) hhigh⟩

theorem toNat_of_isSecondOfThree (h : isSecondOfThree a b = true) :
    (0x80 ≤ b.toNat ∧ b.toNat ≤ 0xBF) ∧ (a.toNat = 0xE0 → 0xA0 ≤ b.toNat) ∧
      (a.toNat = 0xED → b.toNat ≤ 0x9F) := by
  obtain ⟨hb, hlow, hhigh⟩ :=
    toNat_of_second 0xE0 0xED 0xA0 0x9F (by decide) (by decide) (by decide) h
  exact ⟨hb, fun ha => hlow (UInt8.toNat_inj.1 ha), fun ha => hhigh (UInt8.toNat_inj.1 ha)⟩

theorem toNat_of_isSecondOfFour (h : isSecondOfFour a b = true) :
    (0x80 ≤ b.toNat ∧ b.toNat ≤ 0xBF) ∧ (a.toNat = 0xF0 → 0x90 ≤ b.toNat) ∧
      (a.toNat = 0xF4 → b.toNat ≤ 0x8F) := by
  obtain ⟨hb, hlow, hhigh⟩ :=
    toNat_of_second 0xF0 0xF4 0x90 0x8F (by decide) (by decide) (by decide) h
  exact ⟨hb, fun ha => hlow (UInt8.toNat_inj.1 ha), fun ha => hhigh (UInt8.toNat_inj.1 ha)⟩

theorem encodeChar_one (ha : a.toNat < 0x80) :
    String.utf8EncodeChar (Char.ofNat a.toNat) = [a] := by
  have hvalue := toNat_val_ofNat (v := a.toNat) (by omega)
  unfold String.utf8EncodeChar
  dsimp only
  rw [hvalue, if_pos (by omega), ofNat_of_toNat rfl]

theorem encodeChar_two (ha : 0xC2 ≤ a.toNat ∧ a.toNat ≤ 0xDF)
    (hb : 0x80 ≤ b.toNat ∧ b.toNat ≤ 0xBF) :
    String.utf8EncodeChar (Char.ofNat ((a.toNat - 0xC0) * 64 + (b.toNat - 0x80))) = [a, b] := by
  generalize hv : (a.toNat - 0xC0) * 64 + (b.toNat - 0x80) = v
  have hvalue := toNat_val_ofNat (v := v) (by omega)
  unfold String.utf8EncodeChar
  dsimp only
  rw [hvalue, if_neg (by omega), if_pos (by omega), ofNat_of_toNat (a := a) (by omega),
    ofNat_of_toNat (a := b) (by omega)]

theorem encodeChar_three (ha : 0xE0 ≤ a.toNat ∧ a.toNat ≤ 0xEF)
    (hb : isSecondOfThree a b = true) (hc : 0x80 ≤ c.toNat ∧ c.toNat ≤ 0xBF) :
    String.utf8EncodeChar (Char.ofNat
      (((a.toNat - 0xE0) * 64 + (b.toNat - 0x80)) * 64 + (c.toNat - 0x80))) = [a, b, c] := by
  obtain ⟨hb, hlow, hhigh⟩ := toNat_of_isSecondOfThree hb
  generalize hv : ((a.toNat - 0xE0) * 64 + (b.toNat - 0x80)) * 64 + (c.toNat - 0x80) = v
  have hvalue := toNat_val_ofNat (v := v) (by omega)
  unfold String.utf8EncodeChar
  dsimp only
  rw [hvalue, if_neg (by omega), if_neg (by omega), if_pos (by omega),
    ofNat_of_toNat (a := a) (by omega), ofNat_of_toNat (a := b) (by omega),
    ofNat_of_toNat (a := c) (by omega)]

theorem encodeChar_four (ha : 0xF0 ≤ a.toNat ∧ a.toNat ≤ 0xF4)
    (hb : isSecondOfFour a b = true) (hc : 0x80 ≤ c.toNat ∧ c.toNat ≤ 0xBF)
    (hd : 0x80 ≤ d.toNat ∧ d.toNat ≤ 0xBF) :
    String.utf8EncodeChar (Char.ofNat
      ((((a.toNat - 0xF0) * 64 + (b.toNat - 0x80)) * 64 + (c.toNat - 0x80)) * 64 +
        (d.toNat - 0x80))) = [a, b, c, d] := by
  obtain ⟨hb, hlow, hhigh⟩ := toNat_of_isSecondOfFour hb
  generalize hv : (((a.toNat - 0xF0) * 64 + (b.toNat - 0x80)) * 64 + (c.toNat - 0x80)) * 64 +
    (d.toNat - 0x80) = v
  have hvalue := toNat_val_ofNat (v := v) (by omega)
  unfold String.utf8EncodeChar
  dsimp only
  rw [hvalue, if_neg (by omega), if_neg (by omega), if_neg (by omega),
    ofNat_of_toNat (a := a) (by omega), ofNat_of_toNat (a := b) (by omega),
    ofNat_of_toNat (a := c) (by omega), ofNat_of_toNat (a := d) (by omega)]

/-- A piece that is a character is made of the bytes of that character. -/
theorem encodeChar_of_headPiece {x : Char} {n : Nat} (h : headPiece a rest = (some x, n)) :
    String.utf8EncodeChar x ++ rest.drop n = a :: rest := by
  -- The count of the bytes is what `front` is after the first one.
  have hmade : ∀ {v front more}, String.utf8EncodeChar (Char.ofNat v) = a :: front →
      rest = front ++ more → (some (Char.ofNat v), front.length) = (some x, n) →
      String.utf8EncodeChar x ++ rest.drop n = a :: rest := by
    intro v front more hbytes hrest heq
    obtain ⟨hx, rfl⟩ := Prod.mk.inj heq
    obtain rfl := Option.some.inj hx
    rw [hbytes, hrest, List.drop_left]
    rfl
  unfold headPiece at h
  split at h
  · rename_i ha
    exact hmade (encodeChar_one (UInt8.lt_iff_toNat_lt.1 ha)) rfl h
  split at h
  · rename_i ha
    split at h
    · split at h
      · rename_i hb
        exact hmade (encodeChar_two (inRange_iff.1 ha) (toNat_of_isTail hb)) rfl h
      · cases h
    · cases h
  split at h
  · rename_i ha
    split at h
    · split at h
      · cases h
      · rename_i hb
        split at h
        · rename_i hc
          exact hmade
            (encodeChar_three (inRange_iff.1 ha) (by simpa using hb) (toNat_of_isTail hc)) rfl h
        · cases h
    · cases h
    · cases h
  split at h
  · rename_i ha
    split at h
    · split at h
      · cases h
      · rename_i hb
        split at h
        · cases h
        · rename_i hc
          split at h
          · rename_i hd
            exact hmade (encodeChar_four (inRange_iff.1 ha) (by simpa using hb)
              (toNat_of_isTail (by simpa using hc)) (toNat_of_isTail hd)) rfl h
          · cases h
    · cases h
    · cases h
    · cases h
  · cases h

end Values

theorem piecesFrom_eq_pieces_drop (n : Nat) (bytes : Bytes) :
    piecesFrom n bytes = pieces (bytes.drop n) := by
  induction bytes generalizing n with
  | nil => rw [List.drop_nil, pieces, piecesFrom, piecesFrom]
  | cons a rest ih =>
    cases n with
    | zero => rfl
    | succ n => exact ih n

theorem encode_of_decode? {bytes : Bytes} {text : Text} (h : decode? bytes = some text) :
    encode text = bytes := by
  induction text generalizing bytes with
  | nil =>
    cases bytes with
    | nil => rfl
    | cons a rest =>
      rw [decode?, pieces, piecesFrom] at h
      generalize headPiece a rest = piece at h
      obtain ⟨_ | x, n⟩ := piece
      · cases h
      · obtain ⟨_, -, htext⟩ := Option.map_eq_some_iff.1 h
        cases htext
  | cons c text ih =>
    cases bytes with
    | nil => cases h
    | cons a rest =>
      rw [decode?, pieces, piecesFrom] at h
      cases hpiece : headPiece a rest with
      | mk first n =>
        rw [hpiece] at h
        cases first with
        | none => cases h
        | some x =>
          obtain ⟨tail, htail, heq⟩ := Option.map_eq_some_iff.1 h
          obtain ⟨rfl, rfl⟩ := List.cons.inj heq
          rw [piecesFrom_eq_pieces_drop] at htail
          have hrest := ih htail
          rw [encode] at hrest ⊢
          rw [List.flatMap_cons, hrest]
          exact encodeChar_of_headPiece hpiece

end ImportAlias.Utf8
