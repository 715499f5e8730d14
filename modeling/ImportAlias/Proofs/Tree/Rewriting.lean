import ImportAlias.Proofs.Tree.Resolution

/-!
# A file that is read can be written

The way to a file for writing differs from the way for reading in one respect: no file is created
under a name with slashes after it. As no such name leads to a file that is there, a path by which
a file is read also serves to write it. Writing keeps the shape of the tree, so that the path leads
to the same place afterwards, where the new bytes are.
-/
namespace ImportAlias

namespace Tree
variable {t : Tree} {aim : Aim} {trail : Trail} {part : Bytes} {parts rest tail : List Bytes}
  {links : Nat} {p : Path} {place : Place} {content : Bytes}

theorem eq_nil_of_hopBy_stop_file {name : Name}
    (h : t.hopBy aim trail name rest = .stop (.ok (.taken place (.file content)))) : rest = [] := by
  rw [hopBy] at h
  cases hget : (trail.folder t).get? name with
  | none =>
    rw [hget] at h
    dsimp only at h
    split at h <;> cases h
  | some node =>
    rw [hget] at h
    cases node with
    | dir inside => cases h
    | file bytes =>
      dsimp only at h
      split at h
      · rename_i hrest
        exact hrest
      · cases h
    | link target =>
      dsimp only at h
      split at h <;> cases h

/-- The way ends at a file only with its last part. -/
theorem eq_nil_of_hop_stop_file
    (h : t.hop aim trail part rest = .stop (.ok (.taken place (.file content)))) : rest = [] := by
  rw [hop] at h
  split at h
  · cases h
  split at h
  · cases h
  split at h
  · cases h
  split at h
  · cases h
  cases hname : Name.of? part with
  | none =>
    rw [hname] at h
    cases h
  | some name =>
    rw [hname] at h
    exact eq_nil_of_hopBy_stop_file h

/-- A path with slashes at its end does not lead to a file. -/
theorem descendWithLinks_append_ne_file (hne : tail ≠ []) (htail : ∀ q ∈ tail, q = [])
    (parts : List Bytes) :
    t.descendWithLinks aim links trail (parts ++ tail) ≠ .ok (.taken place (.file content)) := by
  induction links using Nat.strongRecOn generalizing trail parts with
  | ind links ih =>
    induction parts generalizing trail with
    | nil =>
      rw [List.nil_append, descendWithLinks_eq, descend_of_forall_eq_nil htail]
      intro h
      cases h
    | cons part parts ihparts =>
      rw [List.cons_append, descendWithLinks_eq, descend_cons]
      cases hhop : t.hop aim trail part (parts ++ tail) with
      | on next =>
        rw [← descendWithLinks_eq]
        exact ihparts
      | follow start inner =>
        cases links with
        | zero =>
          intro h
          cases h
        | succ links =>
          dsimp only [following]
          rw [← List.append_assoc]
          exact ih links (Nat.lt_succ_self links) (inner ++ parts)
      | stop result =>
        rintro rfl
        have hnil := eq_nil_of_hop_stop_file hhop
        exact hne (List.append_eq_nil_iff.1 hnil).2

theorem hopBy_create (t : Tree) (trail : Trail) (name : Name) (rest : List Bytes) :
    t.hopBy .create trail name rest = t.hopBy .use trail name rest := by
  have hcreate : ¬ (Aim.create = .inspect) := by decide
  have huse : ¬ (Aim.use = .inspect) := by decide
  simp only [hopBy, hcreate, huse]

theorem hop_create (t : Tree) (trail : Trail) (part : Bytes) (rest : List Bytes) :
    t.hop .create trail part rest = t.hop .use trail part rest ∨
      rest ≠ [] ∧ ∀ q ∈ rest, q = [] := by
  by_cases hslashes : rest ≠ [] ∧ ∀ q ∈ rest, q = []
  · exact Or.inr hslashes
  · refine Or.inl ?_
    have huse := slashesOnly_eq_false .use rest (fun h => absurd h (by decide))
    have hcreate : (decide (Aim.create = .create) && decide (rest ≠ []) && rest.all (· = [])) =
        false := by
      simpa using hslashes
    rw [hop, hop, hcreate, huse]
    simp only [hopBy_create]

/-- A path that leads to a file leads there for writing, too. -/
theorem descendWithLinks_create
    (h : t.descendWithLinks .use links trail parts = .ok (.taken place (.file content))) :
    t.descendWithLinks .create links trail parts = .ok (.taken place (.file content)) := by
  induction links using Nat.strongRecOn generalizing trail parts with
  | ind links ih =>
    induction parts generalizing trail with
    | nil =>
      rw [descendWithLinks_eq] at h
      cases h
    | cons part rest ihparts =>
      rcases hop_create t trail part rest with hsame | ⟨hne, hslashes⟩
      · rw [descendWithLinks_eq, descend_cons] at h
        rw [descendWithLinks_eq, descend_cons, hsame]
        cases hhop : t.hop .use trail part rest with
        | on next =>
          rw [hhop] at h
          rw [← descendWithLinks_eq] at h ⊢
          exact ihparts h
        | follow start inner =>
          rw [hhop] at h
          cases links with
          | zero => cases h
          | succ links => exact ih links (Nat.lt_succ_self links) h
        | stop result =>
          rw [hhop] at h
          exact h
      · exact absurd h (descendWithLinks_append_ne_file hne hslashes [part])

theorem locate_create (h : t.locate .use p = .ok (.taken place (.file content))) :
    t.locate .create p = .ok (.taken place (.file content)) := by
  rw [locate] at h ⊢
  split at h
  · cases h
  rename_i hempty
  rw [if_neg hempty]
  split at h
  · cases h
  rename_i hnull
  rw [if_neg hnull]
  split at h
  · cases h
  rename_i hlong
  rw [if_neg hlong]
  exact descendWithLinks_create h

/-- What is read at a path is what stands where it leads. -/
theorem readFile_of_locate (h : t.locate .use p = .ok (.taken place (.file content))) :
    t.readFile p = .ok content := by
  simp [readFile, lookup, h, bind, Except.bind, pure, Except.pure]

theorem exists_locate_of_readFile (h : t.readFile p = .ok content) :
    ∃ place, t.locate .use p = .ok (.taken place (.file content)) := by
  rw [readFile] at h
  cases hlookup : t.lookup .use p with
  | error fault =>
    rw [hlookup] at h
    cases h
  | ok node =>
    rw [hlookup] at h
    cases node with
    | file bytes =>
      cases h
      exact exists_locate_of_lookup hlookup
    | dir inside => cases h
    | link target => cases h

theorem readFile_eq_of_locate_eq {t' : Tree} {p' : Path}
    (h : t'.locate .use p' = t.locate .use p) : t'.readFile p' = t.readFile p := by
  rw [readFile, readFile, lookup, lookup, h]

/-- A file that can be read can be written, and the write goes where it stands. -/
theorem writeFile_of_locate (h : t.locate .use p = .ok (.taken place (.file content)))
    (new : Bytes) : t.writeFile p new = .ok (place, t.put place (.file new)) := by
  simp [writeFile, locate_create h, bind, Except.bind, pure, Except.pure]

theorem entryAt_eq_file_iff :
    t.entryAt place = some (.file content) ↔ t.find? place = some (.file content) := by
  rw [entryAt_eq]
  cases t.find? place with
  | none => simp
  | some node => cases node <;> simp [Node.entry]

/-- A path leads to the same place in a tree of the same shape, to the file that is there. -/
theorem locate_file_of_shape_eq {t' : Tree} (hshape : t'.shape = t.shape)
    (h : t.locate aim p = .ok (.taken place (.file content))) {new : Bytes}
    (hentry : t'.entryAt place = some (.file new)) :
    t'.locate aim p = .ok (.taken place (.file new)) := by
  have hsame := locate_eq_of_shape_eq hshape aim p
  rw [h] at hsame
  cases hlocate : t'.locate aim p with
  | error fault =>
    rw [hlocate] at hsame
    cases hsame
  | ok spot =>
    rw [hlocate] at hsame
    cases spot with
    | free place' => cases hsame
    | taken place' node =>
      have hfind := find?_of_locate hlocate
      cases node with
      | dir inside => cases hsame
      | link target => cases hsame
      | file content' =>
        cases hsame
        rw [entryAt_eq_file_iff.2 hfind] at hentry
        cases hentry
        rfl

/-- After the write the path leads to what was written. -/
theorem locate_put_file (h : t.locate aim p = .ok (.taken place (.file content))) (new : Bytes) :
    (t.put place (.file new)).locate aim p = .ok (.taken place (.file new)) := by
  have hfind := find?_of_locate h
  exact locate_file_of_shape_eq (shape_put_file hfind new) h (entryAt_put_file hfind new)

end Tree

end ImportAlias
