import ImportAlias.Document
import ImportAlias.Proofs.Tree.Resolution

/-!
# Paths below a directory

The path of an entry below a directory is the path of the directory, as it is spelled, with the
names that lead down to the entry after it. However odd the spelling of the directory, its
components are the first ones of that path, the last one is the name of the entry, and what is left
below the directory is spelled by the names alone.
-/
namespace ImportAlias

namespace Tree

theorem splitOn_spell {names : Place} (hne : names ≠ []) :
    splitOn Path.slash (spell names) = names.map Name.bytes := by
  refine splitOn_joinWith (by simpa using hne) ?_
  intro part hpart
  obtain ⟨name, -, rfl⟩ := List.mem_map.1 hpart
  exact name.is_name.2.2.1

theorem spell_concat {names : Place} (hne : names ≠ []) (name : Name) :
    spell (names ++ [name]) = spell names ++ Path.slash :: name.bytes := by
  rw [spell, List.map_append]
  exact joinWith_concat (by simpa using hne) name.bytes

end Tree

namespace Path
open ImportAlias.Tree (spell splitOn_spell spell_concat)

/-- The path of the entry at a place below `p`. -/
def joined (p : Path) (names : Place) : Path := if names = [] then p else p.child (spell names)

theorem joined_nil (p : Path) : p.joined [] = p := if_pos rfl

theorem joined_of_ne_nil (p : Path) {names : Place} (hne : names ≠ []) :
    p.joined names = p.child (spell names) := if_neg hne

/-- A path as a beginning, and the slash that children come after. -/
theorem exists_front {p : Path} (hne : p.bytes ≠ []) :
    ∃ front, (p.bytes = front ∨ p.bytes = front ++ [slash]) ∧
      ∀ n, p.child n = ⟨front ++ slash :: n⟩ := by
  by_cases hslash : p.bytes.getLast? = some slash
  · obtain ⟨front, hfront⟩ := List.getLast?_eq_some_iff.1 hslash
    exact ⟨front, Or.inr hfront, fun n => by simp [child, hfront]⟩
  · exact ⟨p.bytes, Or.inl rfl, fun n => by simp [child, hne, hslash]⟩

theorem getLast?_name_ne_slash (name : Name) : name.bytes.getLast? ≠ some slash := by
  intro hlast
  exact name.is_name.2.2.1 (List.mem_of_getLast? hlast)

/-- After a name, the next one is put after a slash. -/
theorem child_append_name (before : Bytes) (name : Name) (n : Bytes) :
    child ⟨before ++ name.bytes⟩ n = ⟨before ++ name.bytes ++ slash :: n⟩ := by
  simp [child, name.ne_nil, getLast?_name_ne_slash]

theorem exists_spell_eq {names : Place} (hne : names ≠ []) :
    ∃ (before : Bytes) (last : Name), spell names = before ++ last.bytes := by
  rcases List.eq_nil_or_concat names with rfl | ⟨init, last, rfl⟩
  · exact absurd rfl hne
  · rw [List.concat_eq_append]
    by_cases hinit : init = []
    · exact ⟨[], last, by simp [hinit, spell, joinWith]⟩
    · exact ⟨spell init ++ [slash], last, by simp [spell_concat hinit]⟩

theorem child_joined {p : Path} (hne : p.bytes ≠ []) (names : Place) (name : Name) :
    (p.joined names).child name.bytes = p.joined (names ++ [name]) := by
  by_cases hnames : names = []
  · subst hnames
    rfl
  · have hnames' : names ++ [name] ≠ [] := List.append_ne_nil_of_left_ne_nil hnames _
    obtain ⟨front, -, hchild⟩ := exists_front hne
    obtain ⟨before, last, hspell⟩ := exists_spell_eq hnames
    have hstart : front ++ slash :: spell names = (front ++ slash :: before) ++ last.bytes := by
      rw [hspell, List.append_assoc]
      rfl
    rw [joined_of_ne_nil p hnames, joined_of_ne_nil p hnames', hchild, hchild,
      spell_concat hnames, hstart, child_append_name, ← hstart, List.append_assoc]
    rfl

/-! ### Parts and components -/

/-- The parts that count are the same whether the head of a path is taken off or not. -/
theorem filter_body (p : Path) :
    p.body.filter (!isTrivial ·) = (splitOn slash p.bytes).filter (!isTrivial ·) := by
  rw [body, head?]
  by_cases habs : p.isAbsolute = true
  · obtain ⟨rest, hrest⟩ := List.head?_eq_some_iff.1 (beq_iff_eq.1 habs)
    rw [if_pos habs, Option.isSome_some, if_pos rfl, hrest, splitOn, if_pos rfl]
    rfl
  · rw [if_neg habs]
    split
    · rename_i hdot
      rw [Option.isSome_some, if_pos rfl]
      rcases eq_or_exists_of_head?_splitOn hdot with hbytes | ⟨rest, hbytes⟩
      · rw [hbytes]
        rfl
      · rw [hbytes, splitOn_append]
        rfl
    · rfl

theorem head?_splitOn_append (front rest : Bytes) :
    (splitOn slash (front ++ slash :: rest)).head? = (splitOn slash front).head? := by
  rw [splitOn_append]
  cases hfront : splitOn slash front with
  | nil => exact absurd hfront (splitOn_ne_nil slash front)
  | cons part parts => rfl

theorem head?_child {p : Path} (hne : p.bytes ≠ []) (n : Bytes) : (p.child n).head? = p.head? := by
  have hparts : (splitOn slash (p.child n).bytes).head? = (splitOn slash p.bytes).head? := by
    obtain ⟨front, hfront | hfront, hchild⟩ := exists_front hne
    · rw [hchild, hfront, head?_splitOn_append]
    · rw [hchild, hfront, head?_splitOn_append, head?_splitOn_append]
  rw [head?, head?, isAbsolute_child hne, hparts]

theorem filter_names (names : Place) :
    (names.map Name.bytes).filter (!isTrivial ·) = names.map Name.bytes := by
  refine List.filter_eq_self.2 fun part hpart => ?_
  obtain ⟨name, -, rfl⟩ := List.mem_map.1 hpart
  rw [name.is_name.1]
  rfl

/-- The parts of a path below `p` that count are those of `p`, and then the names. -/
theorem filter_splitOn_joined {p : Path} (hne : p.bytes ≠ []) (names : Place) :
    (splitOn slash (p.joined names).bytes).filter (!isTrivial ·) =
      (splitOn slash p.bytes).filter (!isTrivial ·) ++ names.map Name.bytes := by
  by_cases hnames : names = []
  · rw [hnames, joined_nil, List.map_nil, List.append_nil]
  · rw [joined_of_ne_nil p hnames]
    obtain ⟨front, hfront | hfront, hchild⟩ := exists_front hne
    · rw [hchild, hfront, splitOn_append, List.filter_append, splitOn_spell hnames, filter_names]
    · rw [hchild, hfront, splitOn_append, splitOn_append, List.filter_append, List.filter_append,
        splitOn_spell hnames, filter_names]
      simp [splitOn, isTrivial]

theorem component_name (name : Name) : component name.bytes = .name name.bytes :=
  if_neg name.is_name.2.1

theorem head?_joined {p : Path} (hne : p.bytes ≠ []) (names : Place) :
    (p.joined names).head? = p.head? := by
  rw [joined]
  split
  · rfl
  · exact head?_child hne _

theorem components_joined {p : Path} (hne : p.bytes ≠ []) (names : Place) :
    (p.joined names).components =
      p.components ++ names.map fun name => Component.name name.bytes := by
  rw [components, components, filter_body, filter_body, filter_splitOn_joined hne,
    head?_joined hne, List.map_append, List.map_map, List.append_assoc]
  simp [Function.comp_def, component_name]

/-- A path below `p` ends with the names, and before them counts what counts in `p`. -/
theorem exists_body_joined {p : Path} (hne : p.bytes ≠ []) (names : Place) :
    ∃ base, (p.joined names).body = base ++ names.map Name.bytes ∧
      base.filter (!isTrivial ·) = p.body.filter (!isTrivial ·) := by
  obtain ⟨base, hbase⟩ : ∃ base, (p.joined names).body = base ++ names.map Name.bytes := by
    by_cases hnames : names = []
    · exact ⟨p.body, by simp [hnames, joined_nil]⟩
    · obtain ⟨front, -, hchild⟩ := exists_front hne
      rw [joined_of_ne_nil p hnames, hchild, body, ← splitOn_spell hnames]
      split
      · cases front with
        | nil => exact ⟨[], rfl⟩
        | cons b front => exact ⟨splitOn slash front, splitOn_append slash front _⟩
      · exact ⟨splitOn slash front, splitOn_append slash front _⟩
  refine ⟨base, hbase, ?_⟩
  have hcount := filter_body (p.joined names)
  rw [filter_splitOn_joined hne, hbase, List.filter_append, filter_names, ← filter_body] at hcount
  exact List.append_cancel_right hcount

theorem trimEnd_append_names (base : List Bytes) {names : Place} (hne : names ≠ []) :
    trimEnd (base ++ names.map Name.bytes) = base ++ names.map Name.bytes := by
  rcases List.eq_nil_or_concat names with rfl | ⟨init, last, rfl⟩
  · exact absurd rfl hne
  · simp [trimEnd, last.is_name.1]

theorem trimEnd_names (names : Place) :
    trimEnd (names.map Name.bytes) = names.map Name.bytes := by
  by_cases hnames : names = []
  · rw [hnames]
    rfl
  · exact trimEnd_append_names [] hnames

/-- The last component of an entry's path is the name of the entry. -/
theorem fileName?_joined {p : Path} (hne : p.bytes ≠ []) (names : Place) (name : Name) :
    (p.joined (names ++ [name])).fileName? = some name.bytes := by
  obtain ⟨base, hbase, -⟩ := exists_body_joined hne (names ++ [name])
  rw [fileName?, hbase, trimEnd_append_names base (by simp)]
  simp [name.is_name.2.1]

/-- Dropping what counts in `base` leaves the names. -/
theorem dropWhile_dropComponents (base : List Bytes) (names : Place) :
    (dropComponents (base.filter (!isTrivial ·)).length (base ++ names.map Name.bytes)).dropWhile
      isTrivial = names.map Name.bytes := by
  have hnames : (names.map Name.bytes).dropWhile isTrivial = names.map Name.bytes := by
    cases names with
    | nil => rfl
    | cons name names => simp [name.is_name.1]
  induction base with
  | nil =>
    rw [List.filter_nil, List.length_nil, List.nil_append, dropComponents]
    exact hnames
  | cons part base ih =>
    cases htrivial : isTrivial part with
    | true =>
      rw [List.filter_cons_of_neg (by simp [htrivial])]
      cases hcount : (base.filter (!isTrivial ·)).length with
      | zero =>
        rw [hcount, dropComponents] at ih
        rw [dropComponents, List.cons_append, List.dropWhile_cons_of_pos htrivial]
        exact ih
      | succ count =>
        rw [hcount] at ih
        rw [List.cons_append, dropComponents, if_pos htrivial]
        exact ih
    | false =>
      rw [List.filter_cons_of_pos (by simp [htrivial]), List.length_cons, List.cons_append,
        dropComponents, htrivial]
      exact ih

theorem components_ne_nil {p : Path} (hne : p.bytes ≠ []) : p.components ≠ [] := by
  intro hnil
  obtain ⟨hhead, hparts⟩ := List.append_eq_nil_iff.1 hnil
  rw [Option.toList_eq_nil_iff] at hhead
  rw [List.map_eq_nil_iff, filter_body] at hparts
  have hrelative : p.isAbsolute = false := by
    cases habs : p.isAbsolute with
    | false => rfl
    | true =>
      rw [head?, habs] at hhead
      cases hhead
  rw [head?, hrelative] at hhead
  cases hsplit : splitOn slash p.bytes with
  | nil => exact splitOn_ne_nil slash p.bytes hsplit
  | cons part parts =>
    have hpart : part = [] ∨ part = dot := by
      rw [hsplit, List.filter_cons] at hparts
      split at hparts
      · cases hparts
      · rename_i htrivial
        rw [Bool.not_eq_true', Bool.not_eq_false, isTrivial, Bool.or_eq_true] at htrivial
        simpa using htrivial
    have hfirst : (splitOn slash p.bytes).head? = some part := by rw [hsplit]; rfl
    rcases hpart with rfl | rfl
    · rcases eq_or_exists_of_head?_splitOn hfirst with hempty | ⟨rest, hslash⟩
      · exact hne hempty
      · rw [isAbsolute, hslash] at hrelative
        cases hrelative
    · rw [hfirst] at hhead
      cases hhead

/-- Below a directory, an entry's path is spelled by the names that lead there. -/
theorem below?_joined {p : Path} (hne : p.bytes ≠ []) (names : Place) :
    (p.joined names).below? p = some ⟨spell names⟩ := by
  obtain ⟨base, hbase, hcount⟩ := exists_body_joined hne names
  have hstart : p.components.isPrefixOf (p.joined names).components = true := by
    rw [components_joined hne, List.isPrefixOf_iff_prefix]
    exact List.prefix_append _ _
  have hlength : p.components.length - p.head?.toList.length =
      (base.filter (!isTrivial ·)).length := by
    rw [hcount, components, List.length_append, List.length_map, Nat.add_sub_cancel_left]
  rw [below?, if_pos hstart, if_neg (components_ne_nil hne), head?_joined hne, hlength, hbase]
  dsimp only
  rw [dropWhile_dropComponents, trimEnd_names]
  rfl

theorem relativeTo_joined {p : Path} (hne : p.bytes ≠ []) (names : Place) :
    Document.relativeTo p (p.joined names) = ⟨spell names⟩ := by
  rw [Document.relativeTo, below?_joined hne]
  rfl

/-- Different places have different paths. -/
theorem joined_injective {p : Path} (hne : p.bytes ≠ []) {names names' : Place}
    (h : p.joined names = p.joined names') : names = names' := by
  have hcomponents := components_joined hne names
  rw [h, components_joined hne] at hcomponents
  have hnames := List.append_cancel_left hcomponents
  refine (List.map_inj_right ?_).1 hnames.symm
  intro a b hab
  exact Name.eq_of_bytes_eq (Component.name.inj hab)

/-! ### Paths spelled by names alone -/

theorem head?_spell {names : Place} (hne : names ≠ []) : head? ⟨spell names⟩ = none := by
  obtain ⟨first, rest, rfl⟩ := List.exists_cons_of_ne_nil hne
  have hfirst : (splitOn slash (spell (first :: rest))).head? = some first.bytes := by
    rw [splitOn_spell hne]
    rfl
  have hdot : first.bytes ≠ dot := by
    intro heq
    have htrivial := first.is_name.1
    rw [heq] at htrivial
    exact absurd htrivial (by decide)
  have hrelative : isAbsolute ⟨spell (first :: rest)⟩ = false := by
    cases habs : isAbsolute ⟨spell (first :: rest)⟩ with
    | false => rfl
    | true =>
      obtain ⟨more, hmore : spell (first :: rest) = slash :: more⟩ :=
        List.head?_eq_some_iff.1 (beq_iff_eq.1 habs)
      rw [hmore, splitOn, if_pos rfl] at hfirst
      exact absurd (Option.some.inj hfirst).symm first.ne_nil
  rw [head?, hrelative, hfirst, if_neg (by decide), if_neg (by simpa using hdot)]

theorem body_spell {names : Place} (hne : names ≠ []) :
    body ⟨spell names⟩ = names.map Name.bytes := by
  rw [body, head?_spell hne]
  exact splitOn_spell hne

theorem fileName?_name (name : Name) : fileName? ⟨name.bytes⟩ = some name.bytes := by
  have hbody : body ⟨name.bytes⟩ = [name.bytes] := body_spell (List.cons_ne_nil name [])
  have htrim : trimEnd [name.bytes] = [name.bytes] := trimEnd_names [name]
  rw [fileName?, hbody, htrim]
  exact if_neg name.is_name.2.1

theorem parent?_spell (dir : Place) (name : Name) :
    parent? ⟨spell (dir ++ [name])⟩ = some ⟨spell dir⟩ := by
  have hne : dir ++ [name] ≠ [] := by simp
  have hbody : trimEnd (body ⟨spell (dir ++ [name])⟩) = dir.map Name.bytes ++ [name.bytes] := by
    rw [body_spell hne, trimEnd_names]
    simp
  rw [parent?, hbody]
  split
  · rename_i hnil
    simp at hnil
  · rw [List.dropLast_concat, trimEnd_names, withBody, head?_spell hne]
    rfl

end Path

end ImportAlias
