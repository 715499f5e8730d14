import ImportAlias.Proofs.Text.Splitting
import ImportAlias.Report.Json
import ImportAlias.Text.CodeSet
import Mathlib.Data.List.Induction

/-!
# Reading values

A reader of JSON texts that takes one character after the other. It knows the values that `Json`
has, in any layout, and leaves out signs, fractions, `null` and pairs of surrogates. What has been
rendered is read as the value that it was rendered from.
-/
namespace ImportAlias

namespace Json

/-- Where a value stands: after other items of a list, or as the value of a named member. -/
inductive Frame where
  | item (before : List Json)
  | member (before : List (Text × Json)) (name : Text)

/-- What a text between quotes is for. -/
inductive Role where
  | value
  | name (before : List (Text × Json))

/-- Between quotes: after a whole character, after a backslash, or inside a code with some digits
still to come after the next one. -/
inductive Part where
  | plain
  | escape
  | code (left value : Nat)

inductive Stage where
  | value
  | firstItem
  | nextItem (before : List Json)
  | firstName
  | name (before : List (Text × Json))
  | colon (before : List (Text × Json)) (name : Text)
  | nextName (before : List (Text × Json))
  | quoted (role : Role) (t : Text) (part : Part)
  | number (n : Nat)
  | word (rest : Text) (v : Json)
  | done (v : Json)

structure Reader where
  around : List Frame
  stage : Stage

def isBlank (c : Char) : Bool := c = ' ' || c = '\n' || c = '\t' || c = '\r'

/-- The character that a letter after a backslash stands for. -/
def unescape? (c : Char) : Option Char :=
  if c = '"' || c = '\\' || c = '/' then some c
  else if c = 'b' then some '\x08'
  else if c = 't' then some '\t'
  else if c = 'n' then some '\n'
  else if c = 'f' then some '\x0c'
  else if c = 'r' then some '\r'
  else none

namespace Reader

/-- A value has been read. -/
def deliver (v : Json) : List Frame → Reader
  | [] => ⟨[], .done v⟩
  | .item before :: around => ⟨around, .nextItem (before ++ [v])⟩
  | .member before name :: around => ⟨around, .nextName (before ++ [(name, v)])⟩

/-- A number is over when the text is, or when something else than a digit comes. -/
def settled (r : Reader) : Reader :=
  match r.stage with
  | .number n => deliver (.number n) r.around
  | _ => r

/-- The first character of a value. -/
def start? (around : List Frame) (c : Char) : Option Reader :=
  if c = '"' then some ⟨around, .quoted .value [] .plain⟩
  else if c = '[' then some ⟨around, .firstItem⟩
  else if c = '\x7b' then some ⟨around, .firstName⟩
  else if c = 't' then some ⟨around, .word "rue".toList (.bool true)⟩
  else if c = 'f' then some ⟨around, .word "alse".toList (.bool false)⟩
  else if c.isDigit then some ⟨around, .number (c.toNat - '0'.toNat)⟩
  else none

def unquote (around : List Frame) (t : Text) : Role → Reader
  | .value => deliver (.text t) around
  | .name before => ⟨around, .colon before t⟩

/-- A character between quotes. Control characters have to be escaped. -/
def quoted? (around : List Frame) (role : Role) (t : Text) (c : Char) : Part → Option Reader
  | .plain =>
    if c = '"' then some (unquote around t role)
    else if c = '\\' then some ⟨around, .quoted role t .escape⟩
    else if c.toNat < 0x20 then none
    else some ⟨around, .quoted role (t ++ [c]) .plain⟩
  | .escape =>
    if c = 'u' then some ⟨around, .quoted role t (.code 3 0)⟩
    else (unescape? c).map fun d => ⟨around, .quoted role (t ++ [d]) .plain⟩
  | .code (left + 1) value =>
    (hexValue? c).map fun d => ⟨around, .quoted role t (.code left (16 * value + d))⟩
  | .code 0 value =>
    (hexValue? c).bind fun d =>
      if (16 * value + d).isValidChar then
        some ⟨around, .quoted role (t ++ [Char.ofNat (16 * value + d)]) .plain⟩
      else none

/-- A character outside of quotes, numbers and words. -/
def between? (r : Reader) (c : Char) : Option Reader :=
  if isBlank c then some r
  else match r.stage with
    | .value => start? r.around c
    | .firstItem =>
      if c = ']' then some (deliver (.list []) r.around)
      else start? (.item [] :: r.around) c
    | .nextItem before =>
      if c = ',' then some ⟨.item before :: r.around, .value⟩
      else if c = ']' then some (deliver (.list before) r.around)
      else none
    | .firstName =>
      if c = '"' then some ⟨r.around, .quoted (.name []) [] .plain⟩
      else if c = '\x7d' then some (deliver (.object []) r.around)
      else none
    | .name before =>
      if c = '"' then some ⟨r.around, .quoted (.name before) [] .plain⟩ else none
    | .colon before name =>
      if c = ':' then some ⟨.member before name :: r.around, .value⟩ else none
    | .nextName before =>
      if c = ',' then some ⟨r.around, .name before⟩
      else if c = '\x7d' then some (deliver (.object before) r.around)
      else none
    | _ => none

def step (r : Reader) (c : Char) : Option Reader :=
  match r.stage with
  | .quoted role t part => quoted? r.around role t c part
  | .number n =>
    if c.isDigit then
      -- No number but zero starts with a zero.
      if n = 0 then none else some ⟨r.around, .number (10 * n + (c.toNat - '0'.toNat))⟩
    else between? (deliver (.number n) r.around) c
  | .word rest v =>
    match rest with
    | [] => none
    | d :: rest =>
      if c = d then some (if rest.isEmpty then deliver v r.around else ⟨r.around, .word rest v⟩)
      else none
  | _ => between? r c

def run (r : Reader) (t : Text) : Option Reader := t.foldlM step r

/-- Where the reader is when the text is over. -/
def after (r : Reader) (t : Text) : Option Reader := (run r t).map settled

end Reader

/-- The one value that a text holds. -/
def read? (t : Text) : Option Json :=
  match Reader.after ⟨[], .value⟩ t with
  | some ⟨[], .done v⟩ => some v
  | _ => none

theorem induction {P : Json → Prop} (bool : ∀ b, P (.bool b)) (number : ∀ n, P (.number n))
    (text : ∀ t, P (.text t)) (list : ∀ items : List Json, (∀ v ∈ items, P v) → P (.list items))
    (object : ∀ members : List (Text × Json), (∀ m ∈ members, P m.2) → P (.object members))
    (v : Json) : P v := by
  refine @Json.rec P (fun items => ∀ v ∈ items, P v) (fun members => ∀ m ∈ members, P m.2)
    (fun m => P m.2) bool number text list object ?_ ?_ ?_ ?_ ?_ v
  · intro v hv
    cases hv
  · intro first rest hfirst hrest
    exact List.forall_mem_cons.2 ⟨hfirst, hrest⟩
  · intro m hm
    cases hm
  · intro first rest hfirst hrest
    exact List.forall_mem_cons.2 ⟨hfirst, hrest⟩
  · intro name value hvalue
    exact hvalue

theorem renderItems_eq_map (depth : Nat) (items : List Json) :
    renderItems depth items = items.map (render depth) := by
  induction items with
  | nil => rfl
  | cons item rest ih => rw [renderItems, ih, List.map_cons]

def renderMember (depth : Nat) (m : Text × Json) : Text :=
  quoted m.1 ++ ": ".toList ++ render depth m.2

theorem renderMembers_eq_map (depth : Nat) (members : List (Text × Json)) :
    renderMembers depth members = members.map (renderMember depth) := by
  induction members with
  | nil => rfl
  | cons m rest ih =>
    rw [renderMembers, ih, List.map_cons]
    rfl

namespace Reader
variable {r r' : Reader} {around : List Frame} {role : Role} {t : Text} {c : Char}

theorem run_cons (r : Reader) (c : Char) (t : Text) :
    run r (c :: t) = (step r c).bind (run · t) := List.foldlM_cons

theorem run_append (r : Reader) (t t' : Text) : run r (t ++ t') = (run r t).bind (run · t') :=
  List.foldlM_append

theorem settled_settled (r : Reader) : r.settled.settled = r.settled := by
  obtain ⟨around, stage⟩ := r
  cases stage with
  | number n =>
    rcases around with _ | ⟨_ | _, around⟩ <;> rfl
  | _ => rfl

theorem step_settled (r : Reader) (hc : c.isDigit = false) : step r.settled c = step r c := by
  obtain ⟨around, stage⟩ := r
  cases stage with
  | number n =>
    have hnumber : step ⟨around, .number n⟩ c = between? (deliver (.number n) around) c := by
      rw [step]
      dsimp only
      rw [hc]
      rfl
    rw [hnumber]
    rcases around with _ | ⟨_ | _, around⟩ <;> rfl
  | _ => rfl

/-- A text that does not go on with a digit can be read in two parts. -/
theorem after_append (r : Reader) (t : Text) {t' : Text} (h : ∀ c ∈ t'.head?, c.isDigit = false) :
    after r (t ++ t') = (after r t).bind (after · t') := by
  rw [after, after, run_append]
  cases run r t with
  | none => rfl
  | some mid =>
    cases t' with
    | nil => exact congrArg some (settled_settled mid).symm
    | cons c t' =>
      -- A number still open at the seam is ended by the first character after it.
      have hstep := step_settled mid (h c rfl)
      change (run mid (c :: t')).map settled = (run mid.settled (c :: t')).map settled
      rw [run_cons, run_cons, hstep]

theorem after_cons (h : step r c = some r') (t : Text) : after r (c :: t) = after r' t := by
  rw [after, run_cons, h]
  rfl

theorem after_of_run (h : run r t = some r') (hsettled : r'.settled = r') : after r t = some r' := by
  rw [after, h]
  exact congrArg some hsettled

/-- The reader passes over blanks. -/
def Waits (r : Reader) : Prop := ∀ c, isBlank c = true → step r c = some r

theorem waits_of_step (h : ∀ c, step r c = between? r c) : r.Waits := by
  intro c hc
  rw [h, between?, if_pos hc]

theorem Waits.run_indent (h : r.Waits) (depth : Nat) : run r (indent depth) = some r := by
  have hblanks : ∀ n, run r (List.replicate n ' ') = some r := by
    intro n
    induction n with
    | zero => rfl
    | succ n ih =>
      rw [List.replicate_succ, run_cons, h ' ' rfl]
      exact ih
  rw [indent, run_cons, h '\n' rfl]
  exact hblanks _

theorem Waits.after_indent_append (h : r.Waits) (depth : Nat) (t : Text) :
    after r (indent depth ++ t) = after r t := by
  rw [after, run_append, h.run_indent]
  rfl

theorem hexValue?_hexDigit {n : Nat} (h : n < 16) : hexValue? (hexDigit n) = some n := by
  have hall : ∀ n : Fin 16, hexValue? (hexDigit n) = some n.val := by decide
  exact hall ⟨n, h⟩

/-- A code of two digits that count. -/
theorem run_code (hc : c.toNat < 0x20) :
    run ⟨around, .quoted role t .plain⟩
        ['\\', 'u', '0', '0', hexDigit (c.toNat / 16), hexDigit (c.toNat % 16)] =
      some ⟨around, .quoted role (t ++ [c]) .plain⟩ := by
  have hhigh := hexValue?_hexDigit (n := c.toNat / 16) (by omega)
  have hlow := hexValue?_hexDigit (n := c.toNat % 16) (by omega)
  have hvalue : 16 * (16 * 0 + c.toNat / 16) + c.toNat % 16 = c.toNat := by omega
  have hvalid : c.toNat.isValidChar := c.valid
  have hfront : run ⟨around, .quoted role t .plain⟩ ['\\', 'u', '0', '0'] =
      some ⟨around, .quoted role t (.code 1 0)⟩ := rfl
  have hnext : step ⟨around, .quoted role t (.code 1 0)⟩ (hexDigit (c.toNat / 16)) =
      some ⟨around, .quoted role t (.code 0 (16 * 0 + c.toNat / 16))⟩ := by
    rw [step]
    dsimp only [quoted?]
    rw [hhigh]
    rfl
  have hlast : step ⟨around, .quoted role t (.code 0 (16 * 0 + c.toNat / 16))⟩
      (hexDigit (c.toNat % 16)) = some ⟨around, .quoted role (t ++ [c]) .plain⟩ := by
    rw [step]
    dsimp only [quoted?]
    rw [hlow, Option.bind_some, hvalue, if_pos hvalid, Char.ofNat_toNat]
  change run _ (['\\', 'u', '0', '0'] ++ [_, _]) = _
  rw [run_append, hfront, Option.bind_some, run_cons, hnext, Option.bind_some, run_cons, hlast]
  rfl

theorem run_escape (c : Char) : run ⟨around, .quoted role t .plain⟩ (escape c) =
    some ⟨around, .quoted role (t ++ [c]) .plain⟩ := by
  rw [escape]
  iterate 7
    split
    · rename_i h
      subst h
      rfl
  split
  · rename_i hc
    exact run_code hc
  · rename_i hquote hbackslash _ _ _ _ _ hc
    rw [run_cons, step]
    dsimp only [quoted?]
    rw [if_neg hquote, if_neg hbackslash, if_neg hc]
    rfl

theorem run_flatMap_escape (s : Text) : run ⟨around, .quoted role t .plain⟩ (s.flatMap escape) =
    some ⟨around, .quoted role (t ++ s) .plain⟩ := by
  induction s generalizing t with
  | nil => rw [List.append_nil]; rfl
  | cons c s ih =>
    rw [List.flatMap_cons, run_append, run_escape, Option.bind_some, ih, List.append_assoc]
    rfl

/-- A quoted text is read as the text, by a reader that takes it in the given role. -/
theorem run_quoted (h : step r '"' = some ⟨around, .quoted role [] .plain⟩) (s : Text) :
    run r (quoted s) = some (unquote around s role) := by
  rw [quoted, List.cons_append, run_cons, h, Option.bind_some, run_append, run_flatMap_escape]
  rfl

theorem step_value_of_isDigit (hc : c.isDigit = true) :
    step ⟨around, .value⟩ c = some ⟨around, .number (c.toNat - '0'.toNat)⟩ := by
  have hne : ∀ d : Char, d.isDigit = false → c ≠ d := by
    rintro d hd rfl
    rw [hc] at hd
    cases hd
  have hblank : isBlank c = false := by
    simp [isBlank, hne ' ' rfl, hne '\n' rfl, hne '\t' rfl, hne '\r' rfl]
  rw [step]
  dsimp only [between?]
  rw [hblank]
  dsimp only [start?]
  rw [if_neg Bool.false_ne_true, if_neg (hne _ rfl), if_neg (hne _ rfl), if_neg (hne _ rfl),
    if_neg (hne _ rfl), if_neg (hne _ rfl), if_pos hc]

/-- The digits of a number are read one by one, from the highest. -/
theorem run_decimal (n : Nat) : run ⟨around, .value⟩ (decimal n) = some ⟨around, .number n⟩ := by
  have hdigit : ∀ d < 10, (Nat.digitChar d).isDigit = true := by
    intro d hd
    rw [Nat.isDigit_digitChar]
    exact decide_eq_true hd
  induction n using Nat.strongRecOn with
  | ind n ih =>
    by_cases hn : n < 10
    · have hvalue := Nat.toNat_digitChar_sub_48_of_lt_ten hn
      rw [decimal, Nat.toDigits_of_lt_base hn, run_cons, step_value_of_isDigit (hdigit n hn)]
      change some (⟨around, .number ((Nat.digitChar n).toNat - 48)⟩ : Reader) = _
      rw [hvalue]
    · have hlow : n % 10 < 10 := Nat.mod_lt n (by omega)
      have hvalue := Nat.toNat_digitChar_sub_48_of_lt_ten hlow
      have hhigh : n / 10 ≠ 0 := by omega
      have hlast : step ⟨around, .number (n / 10)⟩ (Nat.digitChar (n % 10)) =
          some ⟨around, .number n⟩ := by
        rw [step]
        dsimp only
        rw [if_pos (hdigit _ hlow), if_neg hhigh]
        change some (⟨around, .number (10 * (n / 10) + ((n % 10).digitChar.toNat - 48))⟩ :
          Reader) = _
        rw [hvalue, Nat.div_add_mod]
      have hfront := ih (n / 10) (by omega)
      rw [decimal] at hfront
      rw [decimal, Nat.toDigits_of_base_le (by omega) (by omega), run_append, hfront,
        Option.bind_some, run_cons, hlast]
      rfl

section Blocks
variable {α : Type} {entry : α → Text} {opened : Reader} {entries : List α} {depth : Nat}
  (next finish : List α → Reader)

theorem after_joinWith (hne : entries ≠ [])
    (hfirst : ∀ a ∈ entries, after opened (indent depth ++ entry a) = some (next [a]))
    (hnext : ∀ a ∈ entries, ∀ before,
      after (next before) (',' :: (indent depth ++ entry a)) = some (next (before ++ [a]))) :
    after opened (joinWith ',' (entries.map (indent depth ++ entry ·))) = some (next entries) := by
  induction entries using List.reverseRecOn with
  | nil => exact absurd rfl hne
  | append_singleton before a ih =>
    have hmem : a ∈ before ++ [a] := List.mem_append_right _ List.mem_cons_self
    by_cases hbefore : before = []
    · subst hbefore
      exact hfirst a hmem
    · have hread := ih hbefore (fun b hb => hfirst b (List.mem_append_left _ hb))
        (fun b hb => hnext b (List.mem_append_left _ hb))
      have hmore : before.map (indent depth ++ entry ·) ≠ [] := by simpa using hbefore
      have hcomma : ∀ c ∈ (',' :: (indent depth ++ entry a)).head?, c.isDigit = false := by
        rintro c ⟨⟩
        rfl
      rw [List.map_append, List.map_cons, List.map_nil, joinWith_concat hmore,
        after_append _ _ hcomma, hread]
      exact hnext a hmem before

/-- A block is read by a reader that knows what to do with its first entry, with every other one,
and with both brackets. -/
theorem after_block {first last : Char} (hopen : step r first = some opened)
    (hempty : step opened last = some (finish []))
    (hfirst : ∀ a ∈ entries, after opened (indent (depth + 1) ++ entry a) = some (next [a]))
    (hnext : ∀ a ∈ entries, ∀ before,
      after (next before) (',' :: (indent (depth + 1) ++ entry a)) = some (next (before ++ [a])))
    (hwaits : ∀ before, (next before).Waits)
    (hclose : ∀ before, step (next before) last = some (finish before))
    (hfinish : ∀ before, (finish before).settled = finish before) :
    after r (block first last depth (entries.map entry)) = some (finish entries) := by
  by_cases hne : entries = []
  · subst hne
    change after r [first, last] = _
    rw [after_cons hopen, after_cons hempty]
    exact congrArg some (hfinish [])
  · have hblock : block first last depth (entries.map entry) =
        first :: (joinWith ',' (entries.map (indent (depth + 1) ++ entry ·)) ++
          (indent depth ++ [last])) := by
      obtain ⟨a, rest, rfl⟩ := List.exists_cons_of_ne_nil hne
      simp [block, Function.comp_def]
    have hindent : ∀ c ∈ (indent depth ++ [last]).head?, c.isDigit = false := by
      rintro c ⟨⟩
      rfl
    rw [hblock, after_cons hopen, after_append _ _ hindent, after_joinWith next hne hfirst hnext,
      Option.bind_some, (hwaits entries).after_indent_append, after_cons (hclose entries)]
    exact congrArg some (hfinish entries)

end Blocks

theorem settled_deliver (v : Json) (around : List Frame) :
    (deliver v around).settled = deliver v around := by
  rcases around with _ | ⟨_ | _, around⟩ <;> rfl

/-- What is read as a value is read as the first item of a list, too. -/
theorem run_firstItem (h : run ⟨.item [] :: around, .value⟩ t = some r')
    (hread : r'.stage ≠ .value) : run ⟨around, .firstItem⟩ t = some r' := by
  induction t with
  | nil =>
    obtain rfl : ⟨.item [] :: around, .value⟩ = r' := Option.some.inj h
    exact absurd rfl hread
  | cons c t ih =>
    rw [run_cons] at h ⊢
    by_cases hblank : isBlank c = true
    · rw [waits_of_step (fun _ => rfl) c hblank] at h ⊢
      exact ih h
    · have hvalue : step ⟨.item [] :: around, .value⟩ c = start? (.item [] :: around) c :=
        if_neg hblank
      have hfirst : step ⟨around, .firstItem⟩ c =
          if c = ']' then some (deliver (.list []) around) else start? (.item [] :: around) c :=
        if_neg hblank
      -- No value starts with the bracket that would end the list here.
      have hbracket : c ≠ ']' := by
        rintro rfl
        cases h
      rw [hfirst, if_neg hbracket, ← hvalue]
      exact h

theorem after_firstItem {v : Json}
    (h : after ⟨.item [] :: around, .value⟩ t = some (deliver v (.item [] :: around))) :
    after ⟨around, .firstItem⟩ t = some ⟨around, .nextItem [v]⟩ := by
  rw [after] at h ⊢
  obtain ⟨mid, hmid, hsettled⟩ := Option.map_eq_some_iff.1 h
  have hread : mid.stage ≠ .value := by
    intro hvalue
    rw [settled, hvalue] at hsettled
    subst hsettled
    cases hvalue
  rw [run_firstItem hmid hread, Option.map_some, hsettled]
  rfl

/-- A member is read by a reader that takes a quote for the start of its name. -/
theorem after_renderMember {before : List (Text × Json)} {m : Text × Json} {depth : Nat}
    (hquote : step r '"' = some ⟨around, .quoted (.name before) [] .plain⟩)
    (hvalue : after ⟨.member before m.1 :: around, .value⟩ (render depth m.2) =
      some (deliver m.2 (.member before m.1 :: around))) :
    after r (renderMember depth m) = some ⟨around, .nextName (before ++ [m])⟩ := by
  have hname : run r (quoted m.1 ++ ": ".toList) = some ⟨.member before m.1 :: around, .value⟩ := by
    rw [run_append, run_quoted hquote]
    rfl
  rw [after, renderMember, run_append, hname]
  exact hvalue

theorem after_render (v : Json) (around : List Frame) (depth : Nat) :
    after ⟨around, .value⟩ (render depth v) = some (deliver v around) := by
  induction v using Json.induction generalizing around depth with
  | bool b => cases b <;> exact after_of_run rfl (settled_deliver _ _)
  | number n =>
    rw [render, after, run_decimal]
    rfl
  | text s =>
    have hread : run ⟨around, .value⟩ (quoted s) = some (unquote around s .value) :=
      run_quoted rfl s
    exact after_of_run hread (settled_deliver _ _)
  | list items ih =>
    rw [render, renderItems_eq_map]
    refine after_block (fun before => ⟨around, .nextItem before⟩)
      (fun before => deliver (.list before) around) rfl rfl ?_ ?_
      (fun _ => waits_of_step fun _ => rfl) (fun _ => rfl) (fun _ => settled_deliver _ _)
    · intro v hv
      rw [(waits_of_step fun _ => rfl).after_indent_append]
      exact after_firstItem (ih v hv _ _)
    · intro v hv before
      have hcomma : step ⟨around, .nextItem before⟩ ',' = some ⟨.item before :: around, .value⟩ :=
        rfl
      rw [after_cons hcomma, (waits_of_step fun _ => rfl).after_indent_append]
      exact ih v hv _ _
  | object members ih =>
    rw [render, renderMembers_eq_map]
    refine after_block (fun before => ⟨around, .nextName before⟩)
      (fun before => deliver (.object before) around) rfl rfl ?_ ?_
      (fun _ => waits_of_step fun _ => rfl) (fun _ => rfl) (fun _ => settled_deliver _ _)
    · intro m hm
      have hquote : step ⟨around, .firstName⟩ '"' =
          some ⟨around, .quoted (.name []) [] .plain⟩ := rfl
      rw [(waits_of_step fun _ => rfl).after_indent_append]
      exact after_renderMember hquote (ih m hm _ _)
    · intro m hm before
      have hcomma : step ⟨around, .nextName before⟩ ',' = some ⟨around, .name before⟩ := rfl
      have hquote : step ⟨around, .name before⟩ '"' =
          some ⟨around, .quoted (.name before) [] .plain⟩ := rfl
      rw [after_cons hcomma, (waits_of_step fun _ => rfl).after_indent_append]
      exact after_renderMember hquote (ih m hm _ _)

end Reader

theorem read?_render (v : Json) : read? (render 0 v) = some v := by
  rw [read?, Reader.after_render]
  rfl

example : read? "[ \"\\u0041\\/\",10]".toList = some (.list [.text ['A', '/'], .number 10]) := rfl

example : read? "[01]".toList = none := rfl

end Json

end ImportAlias
