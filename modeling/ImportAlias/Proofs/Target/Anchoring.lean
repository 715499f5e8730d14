import ImportAlias.Proofs.Target.Canonical
import Mathlib.Data.List.TakeWhile

/-!
# Where a target is anchored

Anchoring looks for a known folder among the segments of a target. In terms of the text, the target
is cut in two, at its start or behind a slash, before the first whole segment that is a known
folder, and what is behind the cut is kept (`Cut`). There is at most one such cut. A target that
climbs exactly to the root before it comes to a known folder is anchored there, and resolving it
gives the same.
-/
namespace ImportAlias

namespace Target

/-- A cut of a target before its first known folder. Nothing is in front of it, or whole segments
are, each with a slash behind it, of which none is a known folder. -/
@[ext] structure Cut (folders : List Text) (target : Text) where
  front : Text
  kept : Text
  whole : target = front ++ kept
  passed : front = [] ∨ ∃ passed, front = passed ++ ['/'] ∧
    ∀ segment ∈ splitOn '/' passed, segment ∉ folders
  known : kept.takeWhile (· ≠ '/') ∈ folders

section Cut
variable {folders : List Text} {target : Text}

/-- The search ends at once in a text that starts with a known folder. -/
theorem dropWhile_of_known {kept : Text} (hknown : kept.takeWhile (· ≠ '/') ∈ folders) :
    (splitOn '/' kept).dropWhile (!folders.contains ·) = splitOn '/' kept := by
  obtain ⟨parts, hparts⟩ := List.head?_eq_some_iff.1 (head?_splitOn '/' kept)
  rw [hparts]
  apply List.dropWhile_cons_of_neg
  simpa using hknown

/-- The search passes over what is in front of a cut, and ends there. -/
theorem Cut.dropWhile_splitOn (cut : Cut folders target) :
    (splitOn '/' target).dropWhile (!folders.contains ·) = splitOn '/' cut.kept := by
  obtain ⟨front, kept, rfl, hpassed, hknown⟩ := cut
  have hkept := dropWhile_of_known hknown
  rcases hpassed with rfl | ⟨passed, rfl, hpassed⟩
  · exact hkept
  · have hunknown : ∀ segment ∈ splitOn '/' passed, (!folders.contains segment) = true := by
      intro segment hsegment
      simpa using hpassed segment hsegment
    have hsplit : splitOn '/' (passed ++ ['/'] ++ kept) =
        splitOn '/' passed ++ splitOn '/' kept := by
      rw [List.append_assoc]
      exact splitOn_append '/' passed kept
    rw [hsplit, List.dropWhile_append_of_pos hunknown]
    exact hkept

/-- A known folder with no other in front of it is where a target is cut. -/
theorem exists_cut {passed rest : List Text} {first : Text}
    (hsplit : splitOn '/' target = passed ++ first :: rest)
    (hpassed : ∀ segment ∈ passed, segment ∉ folders) (hfirst : first ∈ folders) :
    ∃ cut : Cut folders target, cut.kept = joinWith '/' (first :: rest) := by
  have hslash : ∀ segment ∈ passed ++ first :: rest, '/' ∉ segment := by
    intro segment hsegment
    rw [← hsplit] at hsegment
    exact not_mem_of_mem_splitOn hsegment
  have hwhole : target = joinWith '/' (passed ++ first :: rest) := by
    rw [← hsplit, joinWith_splitOn]
  have hknown : (joinWith '/' (first :: rest)).takeWhile (· ≠ '/') ∈ folders := by
    have hkept : splitOn '/' (joinWith '/' (first :: rest)) = first :: rest :=
      splitOn_joinWith (by simp) fun part hpart => hslash part (List.mem_append_right _ hpart)
    have hhead := head?_splitOn '/' (joinWith '/' (first :: rest))
    rw [hkept] at hhead
    obtain hsame : first = _ := Option.some.inj hhead
    exact hsame ▸ hfirst
  by_cases hnone : passed = []
  · refine ⟨⟨[], joinWith '/' (first :: rest), ?_, Or.inl rfl, hknown⟩, rfl⟩
    simpa [hnone] using hwhole
  · have hfront : splitOn '/' (joinWith '/' passed) = passed :=
      splitOn_joinWith hnone fun part hpart => hslash part (List.mem_append_left _ hpart)
    refine ⟨⟨joinWith '/' passed ++ ['/'], joinWith '/' (first :: rest), ?_, Or.inr ?_, hknown⟩,
      rfl⟩
    · simpa [joinWith_append hnone] using hwhole
    · exact ⟨joinWith '/' passed, rfl, by rwa [hfront]⟩

theorem exists_cut_of_dropWhile {first : Text} {rest : List Text}
    (h : (splitOn '/' target).dropWhile (!folders.contains ·) = first :: rest) :
    ∃ cut : Cut folders target, cut.kept = joinWith '/' (first :: rest) := by
  have hsplit : splitOn '/' target =
      (splitOn '/' target).takeWhile (!folders.contains ·) ++ first :: rest := by
    rw [← h]
    exact List.takeWhile_append_dropWhile.symm
  apply exists_cut hsplit
  · intro segment hsegment
    simpa using List.mem_takeWhile_imp hsegment
  · have hstop := List.head?_dropWhile_not (!folders.contains ·) (splitOn '/' target)
    rw [h] at hstop
    simpa using hstop

/-- The alias takes the place of what is in front of the cut. -/
theorem anchor?_of_cut (importAlias : Text) (hrelative : isRelative target = true)
    (cut : Cut folders target) :
    anchor? importAlias folders target = some (importAlias ++ cut.kept) := by
  obtain ⟨first, rest, hsplit⟩ := List.exists_cons_of_ne_nil (splitOn_ne_nil '/' cut.kept)
  have hjoin := joinWith_splitOn '/' cut.kept
  have hstop := cut.dropWhile_splitOn
  rw [hsplit] at hjoin hstop
  rw [anchor?, if_pos hrelative, hstop, ← hjoin]

theorem exists_cut_of_anchor? {importAlias new : Text}
    (h : anchor? importAlias folders target = some new) :
    isRelative target = true ∧ ∃ cut : Cut folders target, new = importAlias ++ cut.kept := by
  unfold anchor? at h
  split at h
  · rename_i hrelative
    refine ⟨hrelative, ?_⟩
    cases hfound : (splitOn '/' target).dropWhile (!folders.contains ·) with
    | nil =>
      rw [hfound] at h
      cases h
    | cons first rest =>
      obtain ⟨cut, hkept⟩ := exists_cut_of_dropWhile hfound
      rw [hfound] at h
      obtain hnew : importAlias ++ joinWith '/' (first :: rest) = new := Option.some.inj h
      exact ⟨cut, by rw [hkept, hnew]⟩
  · cases h

/-- Two cuts end the same search. -/
theorem Cut.eq (cut cut' : Cut folders target) : cut = cut' := by
  have hkept : cut.kept = cut'.kept := by
    have hsplit : splitOn '/' cut.kept = splitOn '/' cut'.kept :=
      cut.dropWhile_splitOn.symm.trans cut'.dropWhile_splitOn
    calc
      cut.kept = joinWith '/' (splitOn '/' cut.kept) := (joinWith_splitOn '/' cut.kept).symm
      _ = joinWith '/' (splitOn '/' cut'.kept) := by rw [hsplit]
      _ = cut'.kept := joinWith_splitOn '/' cut'.kept
  have hfront : cut.front ++ cut.kept = cut'.front ++ cut.kept := by
    have hwhole : cut.front ++ cut.kept = cut'.front ++ cut'.kept :=
      cut.whole.symm.trans cut'.whole
    rwa [← hkept] at hwhole
  exact Cut.ext (List.append_cancel_right hfront) hkept

end Cut

/-- A target is anchored exactly if it starts with a dot and can be cut before a known folder, and
the alias then takes the place of what is in front of the cut. It can be cut in one way only. -/
theorem anchor?_eq_some_iff_cut (importAlias : Text) (folders : List Text) (target new : Text) :
    (anchor? importAlias folders target = some new ↔
      target.head? = some '.' ∧ ∃ cut : Cut folders target, new = importAlias ++ cut.kept) ∧
    ∀ cut cut' : Cut folders target, cut = cut' := by
  have hdot : isRelative target = true ↔ target.head? = some '.' := by simp [isRelative]
  refine ⟨⟨?_, ?_⟩, Cut.eq⟩
  · intro h
    obtain ⟨hrelative, hcut⟩ := exists_cut_of_anchor? h
    exact ⟨hdot.1 hrelative, hcut⟩
  · rintro ⟨hhead, cut, rfl⟩
    exact anchor?_of_cut importAlias (hdot.2 hhead) cut

-- A name with a slash is the name of no segment, and the empty name is that of an empty one.
example : anchor? "@/".toList ["lib/a".toList, []] "../lib/a//b/".toList = some "@//b/".toList := by
  decide

/-! ## Climbing to the root -/

/-- Segments with a slash behind each. -/
def slashed (segments : List Text) : Text := segments.flatMap (· ++ ['/'])

/-- A segment that leads to the parent, or nowhere. -/
def Climbs (segment : Text) : Prop := segment = [] ∨ segment = here ∨ segment = up

section Climb
variable {segments stack names : List Text} {segment : Text}

theorem Climbs.slash_not_mem (h : Climbs segment) : '/' ∉ segment := by
  rcases h with rfl | rfl | rfl <;> decide

theorem Climbs.stays_of_ne_up (h : Climbs segment) (hne : segment ≠ up) :
    Folder.stays segment = true := by
  rcases h with rfl | rfl | rfl
  · decide
  · decide
  · exact absurd rfl hne

theorem splitOn_slashed_append (hslash : ∀ segment ∈ segments, '/' ∉ segment) (rest : Text) :
    splitOn '/' (slashed segments ++ rest) = segments ++ splitOn '/' rest := by
  induction segments with
  | nil => rfl
  | cons segment more ih =>
    obtain ⟨hsegment, hmore⟩ := List.forall_mem_cons.1 hslash
    have hwhole : slashed (segment :: more) ++ rest = segment ++ '/' :: (slashed more ++ rest) := by
      simp [slashed]
    rw [hwhole, splitOn_append, splitOn_of_not_mem hsegment, ih hmore]
    rfl

/-- The segments of a climb with names behind it. -/
theorem splitOn_climb (hclimbs : ∀ segment ∈ segments, Climbs segment) (hne : names ≠ [])
    (hnames : ∀ name ∈ names, IsName name) :
    splitOn '/' (slashed segments ++ joinWith '/' names) = segments ++ names := by
  have hslash : ∀ segment ∈ segments, '/' ∉ segment :=
    fun segment hsegment => (hclimbs segment hsegment).slash_not_mem
  have hkept : splitOn '/' (joinWith '/' names) = names :=
    splitOn_joinWith hne fun name hname => (hnames name hname).no_slash
  rw [splitOn_slashed_append hslash, hkept]

/-- Names go on the stack one by one. -/
theorem foldl_push_of_isName (h : ∀ name ∈ names, IsName name) (stack : List Text) :
    names.foldl push stack = names.reverse ++ stack := by
  induction names generalizing stack with
  | nil => rfl
  | cons name more ih =>
    obtain ⟨hname, hmore⟩ := List.forall_mem_cons.1 h
    rw [List.foldl_cons, push_of_names hname.names, ih hmore]
    simp

/-- Each step to the parent takes a name from the stack, as long as there are names. -/
theorem foldl_push_of_climbs (h : ∀ segment ∈ segments, Climbs segment)
    (hstack : ∀ name ∈ stack, IsName name) (hcount : segments.countP (· = up) ≤ stack.length) :
    segments.foldl push stack = stack.drop (segments.countP (· = up)) := by
  induction segments generalizing stack with
  | nil => rfl
  | cons segment more ih =>
    obtain ⟨hsegment, hmore⟩ := List.forall_mem_cons.1 h
    by_cases hup : segment = up
    · have hcons : (segment :: more).countP (· = up) = more.countP (· = up) + 1 := by simp [hup]
      rw [hcons] at hcount ⊢
      cases stack with
      | nil =>
        rw [List.length_nil] at hcount
        omega
      | cons name rest =>
        obtain ⟨hname, hrest⟩ := List.forall_mem_cons.1 hstack
        rw [List.length_cons] at hcount
        rw [List.foldl_cons, hup, push_up_of_names hname.names, List.drop_succ_cons]
        exact ih hmore hrest (by omega)
    · have hcons : (segment :: more).countP (· = up) = more.countP (· = up) := by simp [hup]
      rw [hcons] at hcount ⊢
      rw [List.foldl_cons, push_of_stays (hsegment.stays_of_ne_up hup)]
      exact ih hmore hstack hcount

/-- After the directory of a file, its names lie on the stack. -/
theorem foldl_push_directory {importer : Path} {dir : List Text}
    (hdir : directoryText importer = joinWith '/' dir) (hnames : ∀ name ∈ dir, IsName name) :
    (directorySegments importer).foldl push [] = dir.reverse := by
  have hsegments : directorySegments importer = splitOn '/' (joinWith '/' dir) := by
    rw [← hdir]
    rfl
  rw [hsegments]
  by_cases hne : dir = []
  · rw [hne]
    rfl
  · rw [splitOn_joinWith hne fun name hname => (hnames name hname).no_slash,
      foldl_push_of_isName hnames, List.append_nil]

/-- Behind a climb out of the whole directory, only the names that follow are left. -/
theorem resolve_climb {importer : Path} {dir : List Text}
    (hdir : directoryText importer = joinWith '/' dir) (hdirNames : ∀ name ∈ dir, IsName name)
    (hclimbs : ∀ segment ∈ segments, Climbs segment)
    (hcount : segments.countP (· = up) = dir.length) (hne : names ≠ [])
    (hnames : ∀ name ∈ names, IsName name) :
    resolve importer (slashed segments ++ joinWith '/' names) = joinWith '/' names := by
  have hroot : segments.foldl push dir.reverse = [] := by
    rw [foldl_push_of_climbs hclimbs]
    · simp [hcount]
    · simpa using hdirNames
    · simp [hcount]
  have hleft : normalize (directorySegments importer ++ (segments ++ names)) = names := by
    simp only [normalize, List.foldl_append, foldl_push_directory hdir hdirNames, hroot,
      foldl_push_of_isName hnames, List.append_nil, List.reverse_reverse]
  rw [resolve, splitOn_climb hclimbs hne hnames, hleft]
  cases names with
  | nil => exact absurd rfl hne
  | cons name more => rfl

end Climb

/-- A target that climbs exactly to the root, and then goes down by way of a known folder, is
anchored there, and is resolved to the same new target. -/
theorem anchor?_and_resolveWithAlias?_of_climb (importAlias : Text) (folders : List Text)
    (importer : Path) (dir climb rest : List Text) (first : Text)
    (hfolders : [] ∉ folders ∧ here ∉ folders ∧ up ∉ folders)
    (hdir : directoryText importer = joinWith '/' dir) (hdirNames : ∀ name ∈ dir, IsName name)
    (hclimb : ∀ segment ∈ climb, Climbs segment) (hcount : climb.countP (· = up) = dir.length)
    (hfirst : first ∈ folders) (hnames : ∀ name ∈ first :: rest, IsName name)
    (hdot : (slashed climb ++ joinWith '/' (first :: rest)).head? = some '.') :
    let kept := joinWith '/' (first :: rest)
    anchor? importAlias folders (slashed climb ++ kept) = some (importAlias ++ kept) ∧
      resolveWithAlias? importAlias importer (slashed climb ++ kept) =
        some (importAlias ++ kept) := by
  intro kept
  have hrelative : isRelative (slashed climb ++ kept) = true := by simp [isRelative, kept, hdot]
  have hne : first :: rest ≠ [] := List.cons_ne_nil first rest
  have hunknown : ∀ segment ∈ climb, segment ∉ folders := by
    obtain ⟨hempty, hhere, hup⟩ := hfolders
    intro segment hsegment
    rcases hclimb segment hsegment with rfl | rfl | rfl
    · exact hempty
    · exact hhere
    · exact hup
  constructor
  · obtain ⟨cut, hkept⟩ := exists_cut (splitOn_climb hclimb hne hnames) hunknown hfirst
    rw [anchor?_of_cut importAlias hrelative cut, hkept]
  · rw [resolveWithAlias?, if_pos hrelative,
      resolve_climb hdir hdirNames hclimb hcount hne hnames]

/-- Two directories down, with steps that lead nowhere between those to the parent. -/
theorem anchor?_and_resolveWithAlias?_pages :
    let target := ".//.././../components/lib/a".toList
    let new := some "@/components/lib/a".toList
    anchor? "@/".toList ["lib".toList, "components".toList] target = new ∧
      resolveWithAlias? "@/".toList (Path.ofText "pages/pro/A.tsx".toList) target = new := by
  have hname : ∀ name ∈ ["pages".toList, "pro".toList, "components".toList, "lib".toList, ['a']],
      IsName name := by
    intro name hmem
    constructor <;> revert name <;> decide
  exact anchor?_and_resolveWithAlias?_of_climb "@/".toList ["lib".toList, "components".toList]
    (Path.ofText "pages/pro/A.tsx".toList) ["pages".toList, "pro".toList] [here, [], up, here, up]
    ["lib".toList, ['a']] "components".toList (by decide) (by decide +kernel)
    (fun name hmem => hname name (by revert name; decide)) (by simp [Climbs]) (by decide)
    (by decide) (fun name hmem => hname name (by revert name; decide)) (by decide)

end Target

end ImportAlias
