import ImportAlias.Proofs.Text.Splitting
import ImportAlias.Proofs.Tree.Descent

/-!
# Where paths lead

What a path is said to lead to is what stands at its place in the tree. A path that leads to a
directory, with links on the way or not, leads on to each entry of the directory when the name of
the entry is added to it.
-/
namespace ImportAlias

namespace Name

/-- The name that is spelled by a text. -/
def ofText (t : Text) (h : isName (Utf8.encode t) = true := by decide) : Name :=
  ⟨Utf8.encode t, h⟩

theorem is_name (name : Name) : Path.isTrivial name.bytes = false ∧ name.bytes ≠ Path.dotDot ∧
    Path.slash ∉ name.bytes ∧ 0 ∉ name.bytes := by
  simpa [isName, and_assoc] using name.valid

theorem ne_nil (name : Name) : name.bytes ≠ [] := by
  intro hnil
  have htrivial := name.is_name.1
  rw [hnil] at htrivial
  exact absurd htrivial (by decide)

end Name

namespace Path

theorem bytes_child (p : Path) (n : Bytes) :
    ∃ between : Bytes, (∀ b ∈ between, b = slash) ∧
      (p.child n).bytes = p.bytes ++ (between ++ n) := by
  rw [child]
  split
  · exact ⟨[], by simp, rfl⟩
  · exact ⟨[slash], by simp, rfl⟩

theorem child_ne_nil {p : Path} (hne : p.bytes ≠ []) (n : Bytes) : (p.child n).bytes ≠ [] := by
  obtain ⟨between, -, hbytes⟩ := p.bytes_child n
  rw [hbytes]
  exact List.append_ne_nil_of_left_ne_nil hne _

theorem null_not_mem_child {p : Path} (hnull : 0 ∉ p.bytes) (name : Name) :
    0 ∉ (p.child name.bytes).bytes := by
  obtain ⟨between, hbetween, hbytes⟩ := p.bytes_child name.bytes
  rw [hbytes, List.mem_append, List.mem_append]
  rintro (h | h | h)
  · exact hnull h
  · exact absurd (hbetween 0 h) (by decide)
  · exact name.is_name.2.2.2 h

theorem isAbsolute_child {p : Path} (hne : p.bytes ≠ []) (n : Bytes) :
    (p.child n).isAbsolute = p.isAbsolute := by
  obtain ⟨between, -, hbytes⟩ := p.bytes_child n
  obtain ⟨b, more, hcons⟩ := List.exists_cons_of_ne_nil hne
  rw [isAbsolute, isAbsolute, hbytes, hcons]
  rfl

/-- The parts of a child's path are those of the path, without an empty one at the end, and the
child's name. -/
theorem splitOn_child {p : Path} (hne : p.bytes ≠ []) :
    ∃ base tail, (∀ q ∈ tail, q = []) ∧ splitOn slash p.bytes = base ++ tail ∧
      ∀ name : Name, splitOn slash (p.child name.bytes).bytes = base ++ [name.bytes] := by
  have hname : ∀ name : Name, splitOn slash name.bytes = [name.bytes] := by
    intro name
    exact splitOn_of_not_mem name.is_name.2.2.1
  by_cases hslash : p.bytes.getLast? = some slash
  · obtain ⟨front, hfront⟩ := List.getLast?_eq_some_iff.1 hslash
    refine ⟨splitOn slash front, [[]], by simp, ?_, ?_⟩
    · rw [hfront, splitOn_append]
      rfl
    · intro name
      have hchild : (p.child name.bytes).bytes = front ++ slash :: name.bytes := by
        simp [child, hfront]
      rw [hchild, splitOn_append, hname]
  · refine ⟨splitOn slash p.bytes, [], by simp, by simp, ?_⟩
    intro name
    have hchild : (p.child name.bytes).bytes = p.bytes ++ slash :: name.bytes := by
      simp [child, hslash, hne]
    rw [hchild, splitOn_append, hname]

end Path

namespace Tree

section Found
variable {t : Tree}

/-- Each directory of a trail stands in the one before it. -/
def Trail.Valid (t : Tree) : Trail → Prop
  | [] => True
  | (name, inside) :: rest => (Trail.folder t rest).get? name = some (.dir inside) ∧ Valid t rest

theorem Trail.place_cons (name : Name) (inside : Folder) (rest : Trail) :
    Trail.place ((name, inside) :: rest) = Trail.place rest ++ [name] := by
  simp [place]

theorem Trail.find?_place {trail : Trail} (h : trail.Valid t) :
    t.find? trail.place = some (.dir (trail.folder t)) := by
  induction trail with
  | nil => rfl
  | cons step rest ih =>
    obtain ⟨name, inside⟩ := step
    obtain ⟨hget, hrest⟩ := h
    rw [place_cons, find?, Folder.find?_concat (ih hrest), hget]
    rfl

theorem Trail.valid_drop {trail : Trail} (h : trail.Valid t) : Trail.Valid t (trail.drop 1) := by
  cases trail with
  | nil => exact h
  | cons step rest => exact h.2

theorem valid_enter {f : Folder} {trail : Trail} (hf : trail.folder t = f) (h : trail.Valid t)
    (place : Place) : Trail.Valid t (enter f place trail) := by
  induction place generalizing f trail with
  | nil => exact h
  | cons name rest ih =>
    rw [enter]
    split
    · rename_i inside hget
      subst hf
      exact ih rfl ⟨hget, h⟩
    · exact h

/-- What the hop leads to is there. -/
def Hop.Found (t : Tree) : Hop → Prop
  | on next => next.Valid t
  | follow start _ => start.Valid t
  | stop result => ∀ place node, result = .ok (.taken place node) → t.find? place = some node

theorem hopBy_found {trail : Trail} (h : trail.Valid t) (aim : Aim) (name : Name)
    (rest : List Bytes) : (t.hopBy aim trail name rest).Found t := by
  have hfind : ∀ node, (trail.folder t).get? name = some node →
      t.find? (trail.place ++ [name]) = some node := by
    intro node hget
    rw [find?, Folder.find?_concat (Trail.find?_place h), hget]
  rw [hopBy]
  cases hget : (trail.folder t).get? name with
  | none =>
    intro place node hresult
    split at hresult <;> cases hresult
  | some node =>
    cases node with
    | dir inside => exact ⟨hget, h⟩
    | file content =>
      intro place node hresult
      split at hresult
      · cases hresult
        exact hfind _ hget
      · cases hresult
    | link target =>
      dsimp only
      split
      · intro place node hresult
        cases hresult
        exact hfind _ hget
      · dsimp only [Hop.Found]
        split
        · trivial
        · exact h

theorem found_error (t : Tree) (fault : Fault) : (Hop.stop (.error fault)).Found t := by
  intro place node hresult
  cases hresult

theorem hop_found {trail : Trail} (h : trail.Valid t) (aim : Aim) (part : Bytes)
    (rest : List Bytes) : (t.hop aim trail part rest).Found t := by
  rw [hop]
  split
  · exact h
  · split
    · exact Trail.valid_drop h
    · split
      · exact found_error t .isDirectory
      · split
        · exact found_error t .tooLong
        · cases Name.of? part with
          | none => exact found_error t .notFound
          | some name => exact hopBy_found h aim name rest

theorem descend_found {aim : Aim} {follow : Trail → List Bytes → Except Fault Spot}
    (hfollow : ∀ (start : Trail) parts place node, start.Valid t →
      follow start parts = .ok (.taken place node) → t.find? place = some node)
    {trail : Trail} (hvalid : trail.Valid t) {parts : List Bytes} {place : Place} {node : Node}
    (h : t.descend aim follow trail parts = .ok (.taken place node)) :
    t.find? place = some node := by
  induction parts generalizing trail with
  | nil =>
    cases h
    exact Trail.find?_place hvalid
  | cons part rest ih =>
    have hfound := hop_found hvalid aim part rest
    rw [descend_cons] at h
    cases hhop : t.hop aim trail part rest with
    | on next =>
      rw [hhop] at h hfound
      exact ih hfound h
    | follow start parts =>
      rw [hhop] at h hfound
      exact hfollow start _ place node hfound h
    | stop result =>
      rw [hhop] at h hfound
      exact hfound place node h

theorem descendWithLinks_found {aim : Aim} {links : Nat} {trail : Trail} (hvalid : trail.Valid t)
    {parts : List Bytes} {place : Place} {node : Node}
    (h : t.descendWithLinks aim links trail parts = .ok (.taken place node)) :
    t.find? place = some node := by
  induction links generalizing trail parts place node with
  | zero =>
    refine descend_found ?_ hvalid h
    intro start parts place node _ hnone
    cases hnone
  | succ links ih =>
    refine descend_found ?_ hvalid h
    intro start parts place node hstart hmore
    exact ih hstart hmore

/-- What a path leads to stands at its place. -/
theorem find?_of_locate {aim : Aim} {p : Path} {place : Place} {node : Node}
    (h : t.locate aim p = .ok (.taken place node)) : t.find? place = some node := by
  have htop : Trail.Valid t [] := trivial
  have hcwd : t.atCwd.Valid t := valid_enter rfl htop t.cwd
  rw [locate] at h
  split at h
  · cases h
  · split at h
    · cases h
    · split at h
      · cases h
      · dsimp only at h
        split at h
        · exact descendWithLinks_found htop h
        · exact descendWithLinks_found hcwd h

theorem exists_locate_of_lookup {aim : Aim} {p : Path} {node : Node}
    (h : t.lookup aim p = .ok node) : ∃ place, t.locate aim p = .ok (.taken place node) := by
  rw [lookup] at h
  cases hlocate : t.locate aim p with
  | error fault =>
    rw [hlocate] at h
    cases h
  | ok spot =>
    rw [hlocate] at h
    cases spot with
    | free place => cases h
    | taken place node =>
      cases h
      exact ⟨place, rfl⟩

theorem lookup_of_locate {aim : Aim} {p : Path} {place : Place} {node : Node}
    (h : t.locate aim p = .ok (.taken place node)) : t.lookup aim p = .ok node := by
  rw [lookup, h]
  rfl

theorem bytes_ne_nil_of_isDir {p : Path} (h : t.isDir p = true) : p.bytes ≠ [] := by
  intro hnil
  rw [isDir, lookup, locate, if_pos hnil] at h
  cases h

end Found

section Onward
variable {t : Tree}

/-- No hop ends at a directory: the way goes on there, with nothing more to come. -/
theorem hop_ne_stop_dir {aim : Aim} {trail : Trail} {part : Bytes} {rest : List Bytes}
    {place : Place} {inside : Folder} :
    t.hop aim trail part rest ≠ .stop (.ok (.taken place (.dir inside))) := by
  intro h
  rw [hop] at h
  repeat' split at h
  all_goals try cases h
  rw [hopBy] at h
  repeat' split at h
  all_goals cases h

/-- Slashes at the end matter only to a file that is to be created under the name before them. -/
theorem slashesOnly_eq_false (aim : Aim) (rest : List Bytes)
    (h : aim = .create → rest = [] ∨ ∃ q ∈ rest, q ≠ []) :
    (decide (aim = .create) && decide (rest ≠ []) && rest.all (· = [])) = false := by
  by_cases haim : aim = .create
  · rcases h haim with rfl | ⟨q, hq, hne⟩
    · simp
    · have hall : rest.all (· = []) = false := List.all_eq_false.2 ⟨q, hq, by simpa using hne⟩
      rw [hall, Bool.and_false]
  · simp [haim]

theorem hopBy_eq_of_ne_stop {trail : Trail} {name : Name} {rest rest' : List Bytes} {aim : Aim}
    (hgoes : ∀ result, t.hopBy .use trail name rest ≠ .stop result) (hmore : rest' ≠ []) :
    t.hopBy aim trail name rest' = t.hopBy .use trail name rest := by
  rw [hopBy] at hgoes
  rw [hopBy, hopBy]
  cases hget : (trail.folder t).get? name with
  | none =>
    rw [hget] at hgoes
    exact absurd rfl (hgoes _)
  | some node =>
    rw [hget] at hgoes
    cases node with
    | dir inside => rfl
    | file content => exact absurd rfl (hgoes _)
    | link target => simp [hmore]

/-- A hop that goes on does so for every aim, if something is still to come. -/
theorem hop_eq_of_ne_stop {trail : Trail} {part : Bytes} {rest rest' : List Bytes} {aim : Aim}
    (hgoes : ∀ result, t.hop .use trail part rest ≠ .stop result) (hmore : ∃ q ∈ rest', q ≠ []) :
    t.hop aim trail part rest' = t.hop .use trail part rest := by
  have huse := slashesOnly_eq_false .use rest (fun h => nomatch h)
  rw [hop, huse] at hgoes
  rw [hop, hop, slashesOnly_eq_false aim rest' fun _ => Or.inr hmore, huse]
  split
  · rfl
  · rename_i htrivial
    split
    · rfl
    · rename_i hup
      simp only [htrivial, hup, Bool.false_eq_true, if_false] at hgoes ⊢
      split
      · rfl
      · rename_i hlong
        rw [if_neg hlong] at hgoes
        cases hname : Name.of? part with
        | none => rfl
        | some name =>
          rw [hname] at hgoes
          obtain ⟨q, hq, -⟩ := hmore
          exact hopBy_eq_of_ne_stop hgoes (List.ne_nil_of_mem hq)

theorem descend_of_forall_eq_nil {aim : Aim} {follow : Trail → List Bytes → Except Fault Spot}
    {parts : List Bytes} (hparts : ∀ q ∈ parts, q = []) (trail : Trail) :
    t.descend aim follow trail parts = .ok (.taken trail.place (.dir (trail.folder t))) := by
  induction parts with
  | nil => rfl
  | cons part rest ih =>
    obtain ⟨rfl, hrest⟩ := List.forall_mem_cons.1 hparts
    exact ih hrest

/-- Where a path with empty parts at its end leads to a directory, the path without them leads on
from there. -/
theorem exists_descendWithLinks_append {links : Nat} {trail : Trail} {parts tail : List Bytes}
    {place : Place} {inside : Folder} (htail : ∀ q ∈ tail, q = [])
    (h : t.descendWithLinks .use links trail (parts ++ tail) = .ok (.taken place (.dir inside))) :
    ∃ links' trail', Trail.place trail' = place ∧ Trail.folder t trail' = inside ∧
      ∀ aim (name : Name) more, t.descendWithLinks aim links trail (parts ++ name.bytes :: more) =
        t.descendWithLinks aim links' trail' (name.bytes :: more) := by
  -- a link takes one off `links` and puts its own parts in front, which may be more than before
  induction links using Nat.strongRecOn generalizing trail parts with
  | ind links ih =>
    induction parts generalizing trail with
    | nil =>
      rw [List.nil_append, descendWithLinks_eq, descend_of_forall_eq_nil htail] at h
      cases h
      exact ⟨links, trail, rfl, rfl, fun aim name more => rfl⟩
    | cons part parts ihparts =>
      rw [List.cons_append, descendWithLinks_eq, descend_cons] at h
      have hextend : (∀ result, t.hop .use trail part (parts ++ tail) ≠ .stop result) →
          ∀ aim (name : Name) more, t.hop aim trail part (parts ++ name.bytes :: more) =
            t.hop .use trail part (parts ++ tail) := by
        intro hgoes aim name more
        exact hop_eq_of_ne_stop hgoes ⟨name.bytes, by simp, name.ne_nil⟩
      cases hhop : t.hop .use trail part (parts ++ tail) with
      | stop result =>
        rw [hhop] at h
        subst h
        exact absurd hhop hop_ne_stop_dir
      | on next =>
        rw [hhop] at h hextend
        rw [← descendWithLinks_eq] at h
        obtain ⟨links', trail', hplace, hfolder, hmore⟩ := ihparts h
        refine ⟨links', trail', hplace, hfolder, ?_⟩
        intro aim name more
        rw [List.cons_append, descendWithLinks_eq, descend_cons,
          hextend (fun _ heq => nomatch heq), ← hmore, descendWithLinks_eq]
      | follow start inner =>
        rw [hhop] at h hextend
        cases links with
        | zero => cases h
        | succ links =>
          have hinner : t.descendWithLinks .use links start ((inner ++ parts) ++ tail) =
              .ok (.taken place (.dir inside)) := by
            rw [List.append_assoc]
            exact h
          obtain ⟨links', trail', hplace, hfolder, hmore⟩ := ih links (Nat.lt_succ_self _) hinner
          refine ⟨links', trail', hplace, hfolder, ?_⟩
          intro aim name more
          rw [List.cons_append, descendWithLinks_eq, descend_cons,
            hextend (fun _ heq => nomatch heq), ← hmore, List.append_assoc]
          rfl

theorem hopBy_inspect (trail : Trail) (name : Name) (rest : List Bytes) :
    t.hopBy .inspect trail name rest = t.hopBy .use trail name rest ∨
      ∃ place target, t.hopBy .inspect trail name rest =
        .stop (.ok (.taken place (.link target))) := by
  rw [hopBy, hopBy]
  cases (trail.folder t).get? name with
  | none => exact Or.inl rfl
  | some node =>
    cases node with
    | dir inside => exact Or.inl rfl
    | file content => exact Or.inl rfl
    | link target =>
      by_cases hrest : rest = []
      · exact Or.inr ⟨trail.place ++ [name], target, by simp [hrest]⟩
      · exact Or.inl (by simp [hrest])

theorem hop_inspect (trail : Trail) (part : Bytes) (rest : List Bytes) :
    t.hop .inspect trail part rest = t.hop .use trail part rest ∨
      ∃ place target, t.hop .inspect trail part rest =
        .stop (.ok (.taken place (.link target))) := by
  have hinspect := slashesOnly_eq_false .inspect rest (fun h => absurd h (by decide))
  have huse := slashesOnly_eq_false .use rest (fun h => absurd h (by decide))
  rw [hop, hop, hinspect, huse]
  split
  · exact Or.inl rfl
  · split
    · exact Or.inl rfl
    · simp only [Bool.false_eq_true, if_false]
      split
      · exact Or.inl rfl
      · cases Name.of? part with
        | none => exact Or.inl rfl
        | some name => exact hopBy_inspect trail name rest

/-- A path that leads to a directory leads there, or to a link, if links at the end are not
followed. -/
theorem descendWithLinks_inspect {links : Nat} {trail : Trail} {parts : List Bytes} {place : Place}
    {inside : Folder}
    (h : t.descendWithLinks .use links trail parts = .ok (.taken place (.dir inside))) :
    t.descendWithLinks .inspect links trail parts = .ok (.taken place (.dir inside)) ∨
      ∃ place' target, t.descendWithLinks .inspect links trail parts =
        .ok (.taken place' (.link target)) := by
  induction links using Nat.strongRecOn generalizing trail parts with
  | ind links ih =>
    induction parts generalizing trail with
    | nil =>
      rw [descendWithLinks_eq] at h ⊢
      exact Or.inl h
    | cons part rest ihparts =>
      rw [descendWithLinks_eq, descend_cons] at h
      rw [descendWithLinks_eq, descend_cons]
      rcases hop_inspect trail part rest with hsame | ⟨place', target, hlink⟩
      · rw [hsame]
        cases hhop : t.hop .use trail part rest with
        | stop result =>
          rw [hhop] at h
          exact Or.inl h
        | on next =>
          rw [hhop] at h
          rw [← descendWithLinks_eq] at h
          dsimp only
          rw [← descendWithLinks_eq]
          exact ihparts h
        | follow start inner =>
          rw [hhop] at h
          cases links with
          | zero => cases h
          | succ links => exact ih links (Nat.lt_succ_self _) h
      · rw [hlink]
        exact Or.inr ⟨place', target, rfl⟩

end Onward

section Children
variable {t : Tree}

/-- Where the way along a path starts. -/
def startOf (t : Tree) (p : Path) : Trail := if p.isAbsolute then [] else t.atCwd

/-- The path leads to the directory at the end of the trail, and on to what that holds. -/
structure Reaches (t : Tree) (p : Path) (trail : Trail) : Prop where
  ne_nil : p.bytes ≠ []
  no_null : 0 ∉ p.bytes
  onward : ∃ base links,
    (∀ name : Name, splitOn Path.slash (p.child name.bytes).bytes = base ++ [name.bytes]) ∧
      ∀ aim (name : Name) more,
        t.descendWithLinks aim linkLimit (t.startOf p) (base ++ name.bytes :: more) =
          t.descendWithLinks aim links trail (name.bytes :: more)

theorem hop_name (aim : Aim) (trail : Trail) (name : Name) (rest : List Bytes)
    (hrest : aim = .create → rest = [] ∨ ∃ q ∈ rest, q ≠ []) :
    t.hop aim trail name.bytes rest =
      if t.limits.admitsName name.bytes then t.hopBy aim trail name rest
      else .stop (.error .tooLong) := by
  obtain ⟨htrivial, hup, -, -⟩ := name.is_name
  rw [hop, slashesOnly_eq_false aim rest hrest, htrivial, if_neg hup, Name.of?_bytes]
  cases t.limits.admitsName name.bytes <;> rfl

theorem startOf_child {p : Path} (hne : p.bytes ≠ []) (n : Bytes) :
    t.startOf (p.child n) = t.startOf p := by
  rw [startOf, startOf, Path.isAbsolute_child hne]

theorem locate_eq {p : Path} (hne : p.bytes ≠ []) (hnull : 0 ∉ p.bytes) (aim : Aim) :
    t.locate aim p =
      if t.limits.admitsPath p then
        t.descendWithLinks aim linkLimit (t.startOf p) (splitOn Path.slash p.bytes)
      else .error .tooLong := by
  have hcontains : p.bytes.contains 0 = false := by simpa using hnull
  rw [locate, if_neg hne, hcontains]
  cases t.limits.admitsPath p <;> rfl

/-- What a path that leads to a directory leads to with a name added, be it used, written or looked
at. -/
theorem Reaches.locate_child {p : Path} {trail : Trail} (h : t.Reaches p trail) {name : Name}
    {node : Node} (hget : (trail.folder t).get? name = some node)
    (hlink : ∀ target, node ≠ .link target) (aim : Aim) :
    t.locate aim (p.child name.bytes) =
      if t.limits.admitsPath (p.child name.bytes) && t.limits.admitsName name.bytes then
        .ok (.taken (trail.place ++ [name]) node)
      else .error .tooLong := by
  obtain ⟨base, links, hsplit, honward⟩ := h.onward
  have hend : t.descendWithLinks aim linkLimit (t.startOf (p.child name.bytes))
      (splitOn Path.slash (p.child name.bytes).bytes) =
        if t.limits.admitsName name.bytes then .ok (.taken (trail.place ++ [name]) node)
        else .error .tooLong := by
    rw [startOf_child h.ne_nil, hsplit, honward, descendWithLinks_eq, descend_cons,
      hop_name aim trail name [] fun _ => Or.inl rfl, hopBy, hget]
    cases t.limits.admitsName name.bytes with
    | false => rfl
    | true =>
      cases node with
      | file content => rfl
      | link target => exact absurd rfl (hlink target)
      | dir inside =>
        simp only [if_true, descend, Trail.place_cons]
        rfl
  rw [locate_eq (Path.child_ne_nil h.ne_nil _) (Path.null_not_mem_child h.no_null name), hend]
  cases t.limits.admitsPath (p.child name.bytes) <;> rfl

theorem Reaches.child {p : Path} {trail : Trail} (h : t.Reaches p trail) {name : Name}
    {inside : Folder} (hget : (trail.folder t).get? name = some (.dir inside))
    (hadmits : t.limits.admitsName name.bytes = true) :
    t.Reaches (p.child name.bytes) ((name, inside) :: trail) := by
  obtain ⟨base, links, hsplit, honward⟩ := h.onward
  refine ⟨Path.child_ne_nil h.ne_nil _, Path.null_not_mem_child h.no_null name,
    base ++ [name.bytes], links, ?_, ?_⟩
  · obtain ⟨base', tail, htail, hparts, hsplit'⟩ :=
      Path.splitOn_child (Path.child_ne_nil h.ne_nil name.bytes)
    rw [hsplit] at hparts
    rcases List.eq_nil_or_concat tail with rfl | ⟨front, last, rfl⟩
    · rw [List.append_nil] at hparts
      rw [hparts]
      exact hsplit'
    · rw [List.concat_eq_append, ← List.append_assoc] at hparts
      have hlast : name.bytes = last := List.singleton_inj.1 (List.append_inj' hparts rfl).2
      exact absurd (hlast.trans (htail last (by simp))) name.ne_nil
  · intro aim next more
    have hmore : ∃ q ∈ next.bytes :: more, q ≠ [] := ⟨next.bytes, by simp, next.ne_nil⟩
    rw [startOf_child h.ne_nil, List.append_assoc, List.singleton_append, honward,
      descendWithLinks_eq, descend_cons, hop_name aim trail name _ fun _ => Or.inr hmore, hadmits,
      hopBy, hget]
    rfl

/-- A path that leads to a directory leads on from it. -/
theorem exists_reaches {p : Path} {place : Place} {inside : Folder}
    (h : t.locate .use p = .ok (.taken place (.dir inside))) :
    ∃ trail, t.Reaches p trail ∧ trail.place = place ∧ trail.folder t = inside := by
  have hne : p.bytes ≠ [] := by
    intro hnil
    simp [locate, hnil] at h
  have hnull : 0 ∉ p.bytes := by
    intro hmem
    simp [locate, hne, hmem] at h
  rw [locate_eq hne hnull] at h
  split at h
  · obtain ⟨base, tail, htail, hparts, hsplit⟩ := Path.splitOn_child hne
    rw [hparts] at h
    obtain ⟨links, trail, hplace, hfolder, honward⟩ := exists_descendWithLinks_append htail h
    exact ⟨trail, ⟨hne, hnull, base, links, hsplit, honward⟩, hplace, hfolder⟩
  · cases h

theorem locate_inspect {p : Path} {place : Place} {inside : Folder}
    (h : t.locate .use p = .ok (.taken place (.dir inside))) :
    t.locate .inspect p = .ok (.taken place (.dir inside)) ∨
      ∃ place' target, t.locate .inspect p = .ok (.taken place' (.link target)) := by
  rw [locate] at h ⊢
  split at h
  · cases h
  · rename_i hne
    split at h
    · cases h
    · rename_i hnull
      split at h
      · cases h
      · rename_i hlong
        rw [if_neg hne, if_neg hnull, if_neg hlong]
        exact descendWithLinks_inspect h

end Children

end Tree

end ImportAlias
