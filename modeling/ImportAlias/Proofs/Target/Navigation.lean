import ImportAlias.Proofs.Target.Characters
import ImportAlias.Proofs.Text.Encoding
import ImportAlias.Proofs.Walk.Filtering
import Mathlib.Data.List.Induction

/-!
# A resolved target denotes what the target denotes

A target is followed segment by segment through the folders below the root, and where it ends is its
`Goal`. Resolving never looks at the folders: it only keeps a stack of segments. At each step of the
way the stack spells the place that has been reached, so that the stack at the end, followed from
the root, leads to the same goal.
-/
namespace ImportAlias

/-- Where a way through the folders ends: at an entry, or in a directory that does not have the last
name. -/
inductive Goal where
  | entry (place : Place)
  | missing (dir : Place) (name : Text)
  deriving DecidableEq

namespace Folder

/-- The segment leads nowhere. -/
def stays (segment : Text) : Bool := segment = [] || segment = Target.here

/-- The entry that a segment names in the directory at a place. -/
def childOf? (f : Folder) (place : Place) (segment : Text) : Option Place :=
  match Name.of? (Utf8.encode segment) with
  | some name => if (f.find? (place ++ [name])).isSome then some (place ++ [name]) else none
  | none => none

/-- Follows segments from a place, never above the folder and only through entries that are there.
The last name may be missing. -/
def follow (f : Folder) : Place → List Text → Option Goal
  | place, [] => some (.entry place)
  | place, segment :: rest =>
    if stays segment then f.follow place rest
    else if segment = Target.up then
      if place = [] then none else f.follow place.dropLast rest
    else
      match f.childOf? place segment with
      | some next => f.follow next rest
      | none => if rest.all stays then some (.missing place segment) else none

variable {f : Folder} {place next : Place} {segment : Text}

theorem childOf?_eq_some (h : f.childOf? place segment = some next) :
    ∃ name : Name, name.bytes = Utf8.encode segment ∧ next = place ++ [name] ∧
      (f.find? next).isSome = true := by
  unfold childOf? at h
  split at h
  · rename_i name hname
    split at h
    · rename_i hfind
      cases h
      exact ⟨name, Name.bytes_of_of? hname, rfl, hfind⟩
    · cases h
  · cases h

theorem childOf?_of_bytes_eq {name : Name} (hname : name.bytes = Utf8.encode segment)
    (hfind : (f.find? (place ++ [name])).isSome = true) :
    f.childOf? place segment = some (place ++ [name]) := by
  rw [childOf?, ← hname, Name.of?_bytes]
  exact if_pos hfind

/-- What stands above an entry is there. -/
theorem isSome_find?_of_concat {name : Name} (h : (f.find? (place ++ [name])).isSome = true) :
    (f.find? place).isSome = true := by
  obtain ⟨node, hnode⟩ := Option.isSome_iff_exists.1 h
  obtain ⟨inside, hinside⟩ := exists_dir_of_find?_append (by simp) hnode
  rw [hinside]
  rfl

end Folder

namespace Target
variable {f : Folder} {place : Place} {stack segments : List Text} {segment : Text} {goal : Goal}

/-- The segment is a name, and not a step that every directory has. -/
def Names (segment : Text) : Prop := Folder.stays segment = false ∧ segment ≠ up

theorem names_of_bytes_eq {name : Name} (h : name.bytes = Utf8.encode segment) :
    Names segment := by
  have hvalid := name.valid
  rw [h] at hvalid
  refine ⟨?_, ?_⟩
  · rw [Folder.stays, Bool.or_eq_false_iff, decide_eq_false_iff_not, decide_eq_false_iff_not]
    refine ⟨?_, ?_⟩
    · rintro rfl
      cases hvalid
    · rintro rfl
      cases hvalid
  · rintro rfl
    cases hvalid

theorem push_of_stays (h : Folder.stays segment = true) (stack : List Text) :
    push stack segment = stack := by
  unfold push
  exact if_pos h

theorem push_of_names (h : Names segment) (stack : List Text) :
    push stack segment = segment :: stack := by
  unfold push
  rw [← Folder.stays, h.1, if_neg (by decide), if_neg h.2]

/-- After a name, a step to the parent takes the name back. -/
theorem push_up_of_names (h : Names segment) (stack : List Text) :
    push (segment :: stack) up = stack := by
  have hup : Folder.stays up = false := by decide
  unfold push
  rw [← Folder.stays, hup, if_neg (by decide), if_pos rfl]
  exact if_neg h.2

theorem foldl_push_of_stays (h : segments.all Folder.stays = true) (stack : List Text) :
    segments.foldl push stack = stack := by
  induction segments with
  | nil => rfl
  | cons segment rest ih =>
    rw [List.all_cons, Bool.and_eq_true] at h
    rw [List.foldl_cons, push_of_stays h.1, ih h.2]

/-- The stack, its last segment first, spells the names of the place. -/
inductive Spells : List Text → Place → Prop
  | nil : Spells [] []
  | concat {stack : List Text} {place : Place} {segment : Text} {name : Name}
      (above : Spells stack place) (hname : name.bytes = Utf8.encode segment) :
      Spells (segment :: stack) (place ++ [name])

/-- The stack leads to the goal: followed by the last name where that is missing, it spells the
place that is there. -/
def Leads (f : Folder) (stack : List Text) : Goal → Prop
  | .entry place => Spells stack place ∧ (f.find? place).isSome = true
  | .missing dir name => ∃ above, stack = name :: above ∧ Spells above dir ∧
      (f.find? dir).isSome = true ∧ Names name ∧ f.childOf? dir name = none

/-- At every step the stack spells the place that has been reached. -/
theorem leads_of_follow (hfollow : f.follow place segments = some goal)
    (hspells : Spells stack place) (hfind : (f.find? place).isSome = true) :
    Leads f (segments.foldl push stack) goal := by
  induction segments generalizing place stack with
  | nil =>
    cases hfollow
    exact ⟨hspells, hfind⟩
  | cons segment rest ih =>
    rw [Folder.follow] at hfollow
    rw [List.foldl_cons]
    split at hfollow
    · rename_i hstays
      rw [push_of_stays hstays]
      exact ih hfollow hspells hfind
    rename_i hmoves
    split at hfollow
    · rename_i hup
      subst hup
      cases hspells with
      | nil => cases hfollow
      | concat habove hname =>
        rw [if_neg (by simp), List.dropLast_concat] at hfollow
        rw [push_up_of_names (names_of_bytes_eq hname)]
        exact ih hfollow habove (Folder.isSome_find?_of_concat hfind)
    · rename_i hup
      have hnames : Names segment := ⟨by simpa using hmoves, hup⟩
      rw [push_of_names hnames]
      split at hfollow
      · rename_i next hnext
        obtain ⟨name, hname, rfl, hthere⟩ := Folder.childOf?_eq_some hnext
        exact ih hfollow (.concat hspells hname) hthere
      · rename_i hnone
        split at hfollow
        · rename_i hrest
          cases hfollow
          rw [foldl_push_of_stays hrest]
          exact ⟨stack, rfl, hspells, hfind, hnames, hnone⟩
        · cases hfollow

/-- The segments of a stack, followed from the top, lead to the place that they spell. -/
theorem follow_of_spells (hspells : Spells stack place) (hfind : (f.find? place).isSome = true)
    (rest : List Text) : f.follow [] (stack.reverse ++ rest) = f.follow place rest := by
  induction hspells generalizing rest with
  | nil => rfl
  | concat habove hname ih =>
    have hnames := names_of_bytes_eq hname
    rw [List.reverse_cons, List.append_assoc, ih (Folder.isSome_find?_of_concat hfind),
      List.singleton_append, Folder.follow, hnames.1, if_neg (by decide), if_neg hnames.2,
      Folder.childOf?_of_bytes_eq hname hfind]

theorem follow_of_leads (h : Leads f stack goal) : f.follow [] stack.reverse = some goal := by
  cases goal with
  | entry place =>
    have hfollow := follow_of_spells h.1 h.2 []
    rwa [List.append_nil] at hfollow
  | missing dir name =>
    obtain ⟨above, rfl, hspells, hfind, hnames, hnone⟩ := h
    rw [List.reverse_cons, follow_of_spells hspells hfind, Folder.follow, hnames.1,
      if_neg (by decide), if_neg hnames.2, hnone]
    rfl

/-! ## The segments of the directory -/

theorem Spells.exists_of_texts {place : Place}
    (h : ∀ n ∈ place, ∃ text, n.bytes = Utf8.encode text) : ∃ stack, Spells stack place := by
  induction place using List.reverseRecOn with
  | nil => exact ⟨[], .nil⟩
  | append_singleton dir name ih =>
    obtain ⟨stack, hstack⟩ := ih fun n hn => h n (List.mem_append_left _ hn)
    obtain ⟨text, htext⟩ := h name (by simp)
    exact ⟨text :: stack, .concat hstack htext⟩

theorem Spells.foldl_push (h : Spells stack place) : stack.reverse.foldl push [] = stack := by
  induction h with
  | nil => rfl
  | concat _ hname ih =>
    rw [List.reverse_cons, List.foldl_append, ih]
    exact push_of_names (names_of_bytes_eq hname) _

theorem Spells.slash_not_mem (h : Spells stack place) : ∀ segment ∈ stack, '/' ∉ segment := by
  induction h with
  | nil => exact fun _ hnone => absurd hnone List.not_mem_nil
  | @concat _ _ _ name _ hname ih =>
    refine List.forall_mem_cons.2 ⟨fun hslash => ?_, ih⟩
    refine name.is_name.2.2.1 ?_
    rw [hname]
    exact List.mem_flatMap.2 ⟨'/', hslash, by decide⟩

theorem Spells.map_bytes (h : Spells stack place) :
    place.map Name.bytes = stack.reverse.map Utf8.encode := by
  induction h with
  | nil => rfl
  | concat _ hname ih =>
    rw [List.reverse_cons, List.map_append, List.map_append, ih, List.map_singleton, hname]
    rfl

theorem encode_joinWith (segments : List Text) :
    Utf8.encode (joinWith '/' segments) = joinWith Path.slash (segments.map Utf8.encode) := by
  have hslash : String.utf8EncodeChar '/' = [Path.slash] := by decide
  fun_induction joinWith '/' segments with
  | case1 => rfl
  | case2 segment => rfl
  | case3 segment rest hmore ih =>
    have hmore' : rest.map Utf8.encode ≠ [] := by simpa using hmore
    rw [List.map_cons, joinWith, ← ih, Utf8.encode, List.flatMap_append, List.flatMap_cons, hslash]
    · rfl
    · exact hmore'

theorem Spells.spell_eq (h : Spells stack place) :
    Tree.spell place = Utf8.encode (joinWith '/' stack.reverse) := by
  rw [Tree.spell, h.map_bytes, encode_joinWith]

/-- The directory of a file is pushed as it is spelled. -/
theorem foldl_push_directorySegments (h : Spells stack place) (name : Name) :
    (directorySegments ⟨Tree.spell (place ++ [name])⟩).foldl push [] = stack := by
  have htext : (Path.mk (Tree.spell place)).display = joinWith '/' stack.reverse := by
    rw [Path.display, h.spell_eq]
    exact Utf8.lossy_of_decode? (Utf8.decode?_encode _)
  rw [directorySegments, Path.parent?_spell, Option.map_some, Option.getD_some, htext]
  cases h with
  | nil => rfl
  | concat habove hname =>
    have hslash := (habove.concat hname).slash_not_mem
    rw [splitOn_joinWith (by simp) fun part hpart => hslash part (List.mem_reverse.1 hpart)]
    exact (habove.concat hname).foldl_push

/-- The segments of a resolved target are those of the stack, or a single `.`. -/
theorem splitOn_spell_normalize {segments : List Text} (h : ∀ segment ∈ segments, '/' ∉ segment) :
    splitOn '/' (spell (normalize segments)) =
      if normalize segments = [] then [here] else normalize segments := by
  have hslash : ∀ part ∈ normalize segments, '/' ∉ part := by
    intro part hpart
    rcases mem_normalize hpart with hsegment | rfl
    · exact h part hsegment
    · decide
  cases hparts : normalize segments with
  | nil => rfl
  | cons part parts =>
    rw [hparts] at hslash
    exact splitOn_joinWith (by simp) hslash

/-- Where names are text, a target that can be followed from the directory of a file that is found
and the target as it is resolved, followed from the root, lead to one goal. -/
theorem follow_resolve (s : Selection) (t : Tree) (root p : Path) (inside : Folder)
    (found : List (Except Error Path)) (hroot : t.lookup .use root = .ok (.dir inside))
    (htext : ∀ names node, inside.find? names = some node →
      ∀ n ∈ names, ∃ text, n.bytes = Utf8.encode text)
    (hfiles : Walk.files s t root = .ok found) (hp : .ok p ∈ found) :
    ∃ dir name content, p = root.joined (dir ++ [name]) ∧
      inside.find? (dir ++ [name]) = some (.file content) ∧
      ∀ target goal, inside.follow dir (splitOn '/' target) = some goal →
        inside.follow [] (splitOn '/' (resolve (Document.relativeTo root p) target)) =
          some goal := by
  obtain ⟨dir, name, content, rfl, hfind⟩ := Walk.exists_file_of_files hroot hfiles hp
  refine ⟨dir, name, content, rfl, hfind, fun target goal hfollow => ?_⟩
  obtain ⟨place, hlocate⟩ := Tree.exists_locate_of_lookup hroot
  obtain ⟨trail, hreach, -, -⟩ := Tree.exists_reaches hlocate
  obtain ⟨stack, hstack⟩ := Spells.exists_of_texts fun n hn =>
    htext _ _ hfind n (List.mem_append_left _ hn)
  have hdir : (inside.find? dir).isSome = true :=
    Folder.isSome_find?_of_concat (Option.isSome_iff_exists.2 ⟨_, hfind⟩)
  have hleads := follow_of_leads (leads_of_follow hfollow hstack hdir)
  rw [Path.relativeTo_joined hreach.ne_nil, resolve, splitOn_spell_normalize, normalize,
    List.foldl_append, foldl_push_directorySegments hstack]
  · split
    · rename_i hnil
      rw [hnil] at hleads
      exact hleads
    · exact hleads
  · intro segment hsegment
    rcases List.mem_append.1 hsegment with hdirectory | htarget
    · exact not_mem_of_mem_splitOn hdirectory
    · exact not_mem_of_mem_splitOn htarget

theorem texts_sampleFolder (names : Place) (node : Node)
    (hfind : Walk.sampleFolder.find? names = some node) :
    ∀ n ∈ names, ∃ text, n.bytes = Utf8.encode text := by
  have hall : ∀ e ∈ Walk.sampleFolder.allBelow [], ∀ n ∈ e.1,
      n.bytes = Utf8.encode (Utf8.lossy n.bytes) := by decide
  intro n hn
  have hne : names ≠ [] := List.ne_nil_of_mem hn
  have hbelow : (names, node) ∈ Walk.sampleFolder.allBelow [] :=
    (Folder.mem_allBelow_iff Walk.ordered_sampleFolder).2 ⟨names, hne, rfl, hfind⟩
  exact ⟨_, hall _ hbelow n hn⟩

/-- From `a/e.ts`: the root itself, a file beside the directory, and a name that is missing. -/
theorem follow_resolve_sampleFolder :
    let inside := Walk.sampleFolder
    let root := Path.ofText ".".toList
    let goals :=
      [("./..", Goal.entry []),
        ("..//a-b.ts", .entry [.ofText "a-b.ts".toList]),
        ("../skip/./c/.", .missing [.ofText "skip".toList] ['c'])]
    ∃ dir name content, Path.ofText "./a/e.ts".toList = root.joined (dir ++ [name]) ∧
      inside.find? (dir ++ [name]) = some (.file content) ∧
      ∀ e ∈ goals, inside.follow dir (splitOn '/' e.1.toList) = some e.2 ∧
        inside.follow [] (splitOn '/' (resolve (Path.ofText "a/e.ts".toList) e.1.toList)) =
          some e.2 := by
  intro inside root goals
  let t : Tree := ⟨[], {}, inside, Walk.ordered_sampleFolder⟩
  have hroot : t.lookup .use root = .ok (.dir inside) := rfl
  have hfiles := Walk.files_eq_filterMap (s := Walk.sampleSelection) hroot (by decide)
  obtain ⟨dir, name, content, hpath, hfind, hsame⟩ := follow_resolve Walk.sampleSelection t root
    (Path.ofText "./a/e.ts".toList) inside _ hroot texts_sampleFolder hfiles List.mem_cons_self
  have hnames : [.ofText "a".toList] ++ [.ofText "e.ts".toList] = dir ++ [name] :=
    Path.joined_injective (p := root) (by decide) hpath
  obtain ⟨rfl, -⟩ := List.append_inj' hnames rfl
  have hgoals : ∀ e ∈ goals,
      inside.follow [.ofText "a".toList] (splitOn '/' e.1.toList) = some e.2 := by decide
  exact ⟨_, name, content, hpath, hfind, fun e he => ⟨hgoals e he, hsame _ _ (hgoals e he)⟩⟩

end Target

end ImportAlias
