import ImportAlias.Proofs.Path.Joining
import ImportAlias.Proofs.Walk.Enumeration

/-!
# No path has its turn twice

A walk through a tree that changes under it still comes to no path a second time. The reason lies in
the places alone that its paths spell below the root: of those that were visited and those that wait
for their turn, none is above another. A directory that is opened, in whatever tree there is at that
moment, makes way for places right below its own.
-/
namespace ImportAlias

namespace Folder

theorem nodup_names {f : Folder} (hf : f.Ordered) : f.names.Nodup := by
  induction f using cons_induction with
  | empty => exact List.nodup_nil
  | cons name node rest ih =>
    obtain ⟨hlt, -, hrest⟩ := ordered_cons.1 hf
    rw [names_cons, List.nodup_cons]
    constructor
    · intro hmem
      exact Name.lt_irrefl name (hlt name hmem)
    · exact ih hrest

end Folder

namespace Walk

def Item.path : Item → Path
  | .root p | .dir p | .file p => p

/-- Neither place is above the other. -/
def Apart (a b : Place) : Prop := ¬ a <+: b ∧ ¬ b <+: a

theorem Apart.ne {a b : Place} (h : Apart a b) : a ≠ b := by
  rintro rfl
  exact h.1 (List.prefix_refl a)

theorem Apart.symm {a b : Place} (h : Apart a b) : Apart b a := ⟨h.2, h.1⟩

theorem Apart.child {a b : Place} (h : Apart a b) (name : Name) : Apart a (b ++ [name]) := by
  constructor
  · intro habove
    rcases List.prefix_concat_iff.1 habove with rfl | habove
    · exact h.2 (List.prefix_append b [name])
    · exact h.1 habove
  · intro habove
    exact h.2 ((List.prefix_append b [name]).trans habove)

theorem apart_children {a : Place} {m n : Name} (hne : m ≠ n) : Apart (a ++ [m]) (a ++ [n]) := by
  have hnot : ∀ {m n : Name}, m ≠ n → ¬ a ++ [m] <+: a ++ [n] := by
    intro m n hne habove
    have heq := habove.eq_of_length (by simp)
    exact hne (List.singleton_inj.1 (List.append_cancel_left heq))
  exact ⟨hnot hne, hnot hne.symm⟩

theorem path_of_visit? {s : Selection} {p : Path} {name : Name} {node : Node} {item : Item}
    (h : visit? s p name node = some item) : item.path = p.child name.bytes := by
  unfold visit? at h
  dsimp only at h
  split at h
  · cases h
  · cases node with
    | file content =>
      dsimp only at h
      split at h
      · cases h
        rfl
      · cases h
    | link target => cases h
    | dir inside =>
      cases h
      rfl

theorem exists_names_of_itemsOf (s : Selection) (p : Path) (f : Folder) :
    ∃ names : List Name, names.Sublist f.names ∧
      (itemsOf s p f).map Item.path = names.map fun name => p.child name.bytes := by
  induction f using Folder.cons_induction with
  | empty => exact ⟨[], List.Sublist.refl [], rfl⟩
  | cons name node rest ih =>
    obtain ⟨names, hnames, hpaths⟩ := ih
    rw [Folder.names_cons, itemsOf_cons]
    cases hvisit : visit? s p name node with
    | none => exact ⟨names, hnames.cons name, hpaths⟩
    | some item =>
      refine ⟨name :: names, hnames.cons_cons name, ?_⟩
      rw [Option.toList_some, List.singleton_append, List.map_cons, List.map_cons,
        path_of_visit? hvisit, hpaths]

/-- What is listed in a directory stands right below it, under different names. -/
theorem exists_names_of_list {s : Selection} {t : Tree} {p : Path} {items : List Item}
    (h : list s t p = .ok items) :
    ∃ names : List Name, names.Nodup ∧
      items.map Item.path = names.map fun name => p.child name.bytes := by
  cases hlookup : t.lookup .use p with
  | error fault =>
    rw [list, Tree.listDir, hlookup] at h
    cases h
  | ok node =>
    obtain ⟨place, hlocate⟩ := Tree.exists_locate_of_lookup hlookup
    cases node with
    | file content =>
      rw [list, Tree.listDir, hlookup] at h
      cases h
    | link target =>
      rw [list, Tree.listDir, hlookup] at h
      cases h
    | dir inside =>
      rw [list_of_locate hlocate] at h
      cases h
      have hordered := Folder.ordered_find? t.ordered (Tree.find?_of_locate hlocate)
      obtain ⟨names, hnames, hpaths⟩ := exists_names_of_itemsOf s p inside
      exact ⟨names, (Folder.nodup_names hordered).sublist hnames, hpaths⟩

theorem exists_names_of_expand {s : Selection} {t : Tree} {item : Item} {items : List Item}
    (h : expand s t item = .ok items) :
    items.map Item.path = [item.path] ∨
      ∃ names : List Name, names.Nodup ∧
        items.map Item.path = names.map fun name => item.path.child name.bytes := by
  have hnothing : ∃ names : List Name, names.Nodup ∧
      [] = names.map fun name => item.path.child name.bytes := ⟨[], List.nodup_nil, rfl⟩
  cases item with
  | file p =>
    cases h
    exact Or.inl rfl
  | dir p => exact Or.inr (exists_names_of_list h)
  | root p =>
    rw [expand, openRoot] at h
    split at h
    · cases h
      exact Or.inr hnothing
    split at h
    · cases h
    · exact Or.inr (exists_names_of_list h)
    · cases h
      split
      · exact Or.inl rfl
      · exact Or.inr hnothing
    · split at h
      · cases h
      · exact Or.inr (exists_names_of_list h)
      · cases h
        exact Or.inr hnothing

/-- The paths spell places below the root of which none is above another. -/
def Frontier (root : Path) (paths : List Path) : Prop :=
  ∃ places : List Place, paths = places.map root.joined ∧ places.Pairwise Apart

section Frontier
variable {root : Path} {before after paths : List Path}

theorem frontier_root (root : Path) : Frontier root [root] :=
  ⟨[[]], rfl, List.pairwise_singleton Apart []⟩

theorem Frontier.sublist {paths' : List Path} (h : Frontier root paths)
    (hsub : paths'.Sublist paths) : Frontier root paths' := by
  obtain ⟨places, rfl, hapart⟩ := h
  obtain ⟨places', hsub', rfl⟩ := List.sublist_map_iff.1 hsub
  exact ⟨places', rfl, hapart.sublist hsub'⟩

theorem Frontier.nodup (hne : root.bytes ≠ []) (h : Frontier root paths) : paths.Nodup := by
  obtain ⟨places, rfl, hapart⟩ := h
  refine List.pairwise_map.2 (hapart.imp ?_)
  intro a b hab hsame
  exact hab.ne (Path.joined_injective hne hsame)

/-- A path makes way for what stands right below it. -/
theorem Frontier.opened {p : Path} (hne : root.bytes ≠ [])
    (h : Frontier root (before ++ p :: after)) {names : List Name} (hnames : names.Nodup) :
    Frontier root (before ++ (names.map fun name => p.child name.bytes) ++ after) := by
  obtain ⟨places, hpaths, hapart⟩ := h
  obtain ⟨first, rest, rfl, rfl, hrest⟩ := List.map_eq_append_iff.1 hpaths.symm
  obtain ⟨place, last, rfl, rfl, rfl⟩ := List.map_eq_cons_iff.1 hrest
  obtain ⟨hfirst, hmore, hacross⟩ := List.pairwise_append.1 hapart
  obtain ⟨hplace, hlast⟩ := List.pairwise_cons.1 hmore
  have hchildren : (names.map fun name => place ++ [name]).Pairwise Apart :=
    List.pairwise_map.2 (hnames.imp fun hne => apart_children hne)
  refine ⟨first ++ (names.map fun name => place ++ [name]) ++ last, ?_, ?_⟩
  · rw [List.map_append, List.map_append, List.map_map]
    simp only [Function.comp_def, Path.child_joined hne]
  · refine List.pairwise_append.2 ⟨List.pairwise_append.2 ⟨hfirst, hchildren, ?_⟩, hlast, ?_⟩
    · intro a ha b hb
      obtain ⟨name, -, rfl⟩ := List.mem_map.1 hb
      exact (hacross a ha place List.mem_cons_self).child name
    · intro a ha b hb
      rcases List.mem_append.1 ha with ha | ha
      · exact hacross a ha b (List.mem_cons_of_mem place hb)
      · obtain ⟨name, -, rfl⟩ := List.mem_map.1 ha
        exact ((hplace b hb).symm.child name).symm

end Frontier

end Walk

end ImportAlias
