import ImportAlias.Proofs.Tree.Shape

/-!
# All entries below a folder

`Folder.allBelow` lists what stands below a folder, at each place exactly what `Folder.find?` finds
there. The places rise from entry to entry, in the order in which lists of names are compared name
by name: a directory comes before what it holds, and all that it holds before the next name.
-/
namespace ImportAlias

namespace Folder

theorem find?_cons_self (name : Name) (node : Node) (rest : Folder) (names : Place) :
    (cons name node rest).find? (name :: names) =
      match node with
      | .dir inside => inside.find? names
      | _ => if names = [] then some node else none := by
  rw [find?, get?_cons, if_pos rfl]
  cases node <;> rfl

theorem find?_cons_of_ne {name n : Name} (node : Node) (rest : Folder) (names : Place)
    (h : name ≠ n) : (cons name node rest).find? (n :: names) = rest.find? (n :: names) := by
  rw [find?, get?_cons, if_neg h, find?]

theorem mem_names_of_find? {f : Folder} {n : Name} {names : Place} {node : Node}
    (h : f.find? (n :: names) = some node) : n ∈ f.names := by
  rw [find?] at h
  split at h
  · rename_i inside hget
    exact mem_names_of_get? hget
  · rename_i hget
    exact mem_names_of_get? hget
  · cases h

/-- What stands above an entry is a directory. -/
theorem exists_dir_of_find?_append {f : Folder} {place names : Place} {node : Node}
    (hne : names ≠ []) (h : f.find? (place ++ names) = some node) :
    ∃ inside, f.find? place = some (.dir inside) := by
  induction place generalizing f with
  | nil => exact ⟨f, rfl⟩
  | cons n place ih =>
    rw [List.cons_append, find?] at h
    rw [find?]
    cases hget : f.get? n with
    | none =>
      rw [hget] at h
      cases h
    | some first =>
      rw [hget] at h
      cases first with
      | dir inside => exact ih h
      | file content => simp [hne] at h
      | link target => simp [hne] at h

/-- Induction on the entries of a folder and on what the directories among them hold. -/
theorem nested_induction {motive : Folder → Prop} (empty : motive empty)
    (cons : ∀ name node rest, (∀ inside, node = .dir inside → motive inside) → motive rest →
      motive (cons name node rest)) (f : Folder) : motive f := by
  induction f with
  | empty => exact empty
  | file name content rest ih =>
    exact cons name (.file content) rest (fun _ heq => by cases heq) ih
  | link name target rest ih =>
    exact cons name (.link target) rest (fun _ heq => by cases heq) ih
  | dir name inside rest ih_inside ih =>
    exact cons name (.dir inside) rest (fun _ heq => by cases heq; exact ih_inside) ih

theorem allBelow_cons (above : List Name) (name : Name) (node : Node) (rest : Folder) :
    (cons name node rest).allBelow above =
      ((name :: above).reverse, node) ::
        ((match node with
          | .dir inside => inside.allBelow (name :: above)
          | _ => []) ++ rest.allBelow above) := by
  cases node <;> rfl

/-- An entry below a folder is one of its own, or stands in one of its directories. -/
theorem mem_allBelow_cons {above : List Name} {name : Name} {node : Node} {rest : Folder}
    {e : Place × Node} :
    e ∈ (cons name node rest).allBelow above ↔
      e = ((name :: above).reverse, node) ∨
        (∃ inside, node = .dir inside ∧ e ∈ inside.allBelow (name :: above)) ∨
          e ∈ rest.allBelow above := by
  rw [allBelow_cons]
  cases node <;> simp

/-- The entries below a folder start with one of its names. -/
theorem exists_name_of_mem_allBelow {f : Folder} {above : List Name} {e : Place × Node}
    (h : e ∈ f.allBelow above) : ∃ n ∈ f.names, ∃ names, e.1 = above.reverse ++ n :: names := by
  induction f using nested_induction generalizing above with
  | empty => cases h
  | cons name node rest ih_inside ih =>
    rw [names_cons]
    rcases mem_allBelow_cons.1 h with rfl | ⟨inside, hnode, h⟩ | h
    · exact ⟨name, List.mem_cons_self, [], by simp⟩
    · obtain ⟨n, -, names, hnames⟩ := ih_inside inside hnode h
      exact ⟨name, List.mem_cons_self, n :: names, by simp [hnames]⟩
    · obtain ⟨n, hn, hnames⟩ := ih h
      exact ⟨n, List.mem_cons_of_mem _ hn, hnames⟩

/-- At each place below a folder stands what is found there. -/
theorem mem_allBelow_iff {f : Folder} (hf : f.Ordered) {above : List Name} {place : Place}
    {node : Node} :
    (place, node) ∈ f.allBelow above ↔
      ∃ names, names ≠ [] ∧ place = above.reverse ++ names ∧ f.find? names = some node := by
  induction f using nested_induction generalizing above with
  | empty =>
    constructor
    · intro h
      cases h
    · rintro ⟨names, hne, -, hfind⟩
      obtain ⟨n, rest, rfl⟩ := List.exists_cons_of_ne_nil hne
      cases hfind
  | cons name first rest ih_inside ih =>
    obtain ⟨hlt, hfirst, hrest⟩ := ordered_cons.1 hf
    rw [mem_allBelow_cons]
    constructor
    · rintro (heq | ⟨inside, rfl, h⟩ | h)
      · obtain ⟨rfl, rfl⟩ := Prod.mk.inj heq
        refine ⟨[name], by simp, by simp, ?_⟩
        rw [find?_cons_self]
        cases node <;> rfl
      · obtain ⟨names, -, rfl, hfind⟩ := (ih_inside inside rfl hfirst).1 h
        refine ⟨name :: names, by simp, by simp, ?_⟩
        rw [find?_cons_self]
        exact hfind
      · obtain ⟨names, hne, rfl, hfind⟩ := (ih hrest).1 h
        refine ⟨names, hne, rfl, ?_⟩
        obtain ⟨n, names, rfl⟩ := List.exists_cons_of_ne_nil hne
        rw [find?_cons_of_ne first rest names ?_]
        · exact hfind
        · rintro rfl
          exact Name.lt_irrefl name (hlt name (mem_names_of_find? hfind))
    · rintro ⟨names, hne, rfl, hfind⟩
      obtain ⟨n, names, rfl⟩ := List.exists_cons_of_ne_nil hne
      by_cases hn : name = n
      · subst hn
        rw [find?_cons_self] at hfind
        by_cases hnames : names = []
        · subst hnames
          refine Or.inl ?_
          cases first with
          | dir inside => simpa [find?, eq_comm] using hfind
          | file content => simpa [eq_comm] using hfind
          | link target => simpa [eq_comm] using hfind
        · cases first with
          | dir inside =>
            refine Or.inr (Or.inl ⟨inside, rfl, (ih_inside inside rfl hfirst).2 ?_⟩)
            exact ⟨names, hnames, by simp, hfind⟩
          | file content => simp [hnames] at hfind
          | link target => simp [hnames] at hfind
      · rw [find?_cons_of_ne first rest names hn] at hfind
        exact Or.inr (Or.inr ((ih hrest).2 ⟨n :: names, hne, rfl, hfind⟩))

theorem lt_of_name_lt {n m : Name} (h : n < m) (above names names' : Place) :
    above ++ n :: names < above ++ m :: names' :=
  List.append_left_lt (List.cons_lt_cons_iff.2 (Or.inl h))

/-- The places of the entries below a folder rise from entry to entry. -/
theorem pairwise_allBelow {f : Folder} (hf : f.Ordered) (above : List Name) :
    (f.allBelow above).Pairwise fun a b => a.1 < b.1 := by
  induction f using nested_induction generalizing above with
  | empty => exact List.Pairwise.nil
  | cons name node rest ih_inside ih =>
    obtain ⟨hlt, hnode, hrest⟩ := ordered_cons.1 hf
    have hself : (name :: above).reverse = above.reverse ++ [name] := List.reverse_cons
    have hafter : ∀ names, ∀ b ∈ rest.allBelow above, above.reverse ++ name :: names < b.1 := by
      intro names b hb
      obtain ⟨n, hn, names', hb'⟩ := exists_name_of_mem_allBelow hb
      rw [hb']
      exact lt_of_name_lt (hlt n hn) above.reverse names names'
    have hinside : ∀ inside, ∀ a ∈ Folder.allBelow (name :: above) inside,
        ∃ n names, a.1 = above.reverse ++ name :: n :: names := by
      intro inside a ha
      obtain ⟨n, -, names, ha'⟩ := exists_name_of_mem_allBelow ha
      exact ⟨n, names, by simp [ha']⟩
    have hlast : ∀ b ∈ [] ++ rest.allBelow above, above.reverse ++ [name] < b.1 := hafter []
    rw [allBelow_cons, List.pairwise_cons, List.pairwise_append, hself]
    cases node with
    | file content => exact ⟨hlast, List.Pairwise.nil, ih hrest above, by simp⟩
    | link target => exact ⟨hlast, List.Pairwise.nil, ih hrest above, by simp⟩
    | dir inside =>
      refine ⟨?_, ih_inside inside rfl hnode (name :: above), ih hrest above, ?_⟩
      · intro b hb
        rcases List.mem_append.1 hb with hb | hb
        · obtain ⟨n, names, hb'⟩ := hinside inside b hb
          rw [hb']
          refine List.append_left_lt (List.cons_lt_cons_iff.2 (Or.inr ⟨rfl, ?_⟩))
          exact List.nil_lt_cons n names
        · exact hafter [] b hb
      · intro a ha b hb
        obtain ⟨n, names, ha'⟩ := hinside inside a ha
        rw [ha']
        exact hafter (n :: names) b hb

end Folder

end ImportAlias
