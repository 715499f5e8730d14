import ImportAlias.Proofs.Text.Splitting
import ImportAlias.Target.Resolve

/-!
# What new targets are made of

A new target starts with the alias. Its other characters come from the old target, from the
directory of the importing file, or are the dots and slashes that resolving puts in.
-/
namespace ImportAlias

namespace Target

/-- The text of the directory of a file; it is empty at the top. -/
def directoryText (importer : Path) : Text := (importer.parent?.map Path.display).getD []

theorem isRelative_append {importAlias rest : Text} (hne : importAlias ≠ [])
    (hdot : importAlias.head? ≠ some '.') : isRelative (importAlias ++ rest) = false := by
  obtain ⟨a, more, rfl⟩ := List.exists_cons_of_ne_nil hne
  simpa [isRelative] using hdot

theorem mem_push {stack : List Text} {segment part : Text} (h : part ∈ push stack segment) :
    part ∈ stack ∨ part = segment ∨ part = up := by
  unfold push at h
  split at h
  · exact Or.inl h
  split at h
  · split at h
    · exact Or.inr (Or.inr (List.mem_singleton.1 h))
    · rename_i last rest
      split at h
      · rcases List.mem_cons.1 h with hup | hold
        · exact Or.inr (Or.inr hup)
        · exact Or.inl hold
      · exact Or.inl (List.mem_cons_of_mem last h)
  · rcases List.mem_cons.1 h with hnew | hold
    · exact Or.inr (Or.inl hnew)
    · exact Or.inl hold

theorem mem_foldl_push {stack segments : List Text} {part : Text}
    (h : part ∈ segments.foldl push stack) : part ∈ stack ∨ part ∈ segments ∨ part = up := by
  induction segments generalizing stack with
  | nil => exact Or.inl h
  | cons segment rest ih =>
    rcases ih h with hstack | hrest | hup
    · rcases mem_push hstack with hold | hnew | hup
      · exact Or.inl hold
      · exact Or.inr (Or.inl (hnew ▸ List.mem_cons_self))
      · exact Or.inr (Or.inr hup)
    · exact Or.inr (Or.inl (List.mem_cons_of_mem segment hrest))
    · exact Or.inr (Or.inr hup)

theorem mem_normalize {segments : List Text} {part : Text} (h : part ∈ normalize segments) :
    part ∈ segments ∨ part = up := by
  rcases mem_foldl_push (List.mem_reverse.1 h) with hnone | hsegment
  · cases hnone
  · exact hsegment

/-- Besides the segments that are left, a resolved target holds dots and slashes only. -/
theorem exists_of_mem_resolve {importer : Path} {target : Text} {x : Char}
    (h : x ∈ resolve importer target) :
    x = '.' ∨ x = '/' ∨
      ∃ part ∈ normalize (directorySegments importer ++ splitOn '/' target), x ∈ part := by
  unfold resolve spell at h
  split at h
  · exact Or.inl (List.mem_singleton.1 h)
  · exact Or.inr (mem_joinWith h)

theorem mem_resolve_of_mem {importer : Path} {target part : Text} {x : Char}
    (hpart : part ∈ normalize (directorySegments importer ++ splitOn '/' target)) (hx : x ∈ part) :
    x ∈ resolve importer target := by
  unfold resolve spell
  split
  · rename_i hnil
    rw [hnil] at hpart
    cases hpart
  · exact mem_joinWith_of_mem hpart hx

theorem mem_resolve {importer : Path} {target : Text} {x : Char} (h : x ∈ resolve importer target) :
    x = '.' ∨ x = '/' ∨ x ∈ directoryText importer ∨ x ∈ target := by
  rcases exists_of_mem_resolve h with hdot | hslash | ⟨part, hpart, hx⟩
  · exact Or.inl hdot
  · exact Or.inr (Or.inl hslash)
  rcases mem_normalize hpart with hpart | rfl
  · rcases List.mem_append.1 hpart with hdir | htarget
    · exact Or.inr (Or.inr (Or.inl (mem_of_mem_splitOn hdir hx)))
    · exact Or.inr (Or.inr (Or.inr (mem_of_mem_splitOn htarget hx)))
  · have hdot : x = '.' := by simpa [up] using hx
    exact Or.inl hdot

/-- A character that resolving does not put in, and that the target does not hold, comes with a name of
the directory that is left. -/
theorem mem_resolve_iff_of_not_mem (importer : Path) {target : Text} {x : Char}
    (htarget : x ∉ target) (hdot : x ≠ '.') (hslash : x ≠ '/') :
    x ∈ resolve importer target ↔
      ∃ name ∈ directorySegments importer,
        name ∈ normalize (directorySegments importer ++ splitOn '/' target) ∧ x ∈ name := by
  constructor
  · intro h
    rcases exists_of_mem_resolve h with hx | hx | ⟨part, hpart, hx⟩
    · exact absurd hx hdot
    · exact absurd hx hslash
    rcases mem_normalize hpart with hsegment | rfl
    · rcases List.mem_append.1 hsegment with hdir | hown
      · exact ⟨part, hdir, hpart, hx⟩
      · exact absurd (mem_of_mem_splitOn hown hx) htarget
    · exact absurd (by simpa [up] using hx) hdot
  · rintro ⟨name, -, hleft, hx⟩
    exact mem_resolve_of_mem hleft hx

theorem exists_of_resolveWithAlias? {importAlias target new : Text} {importer : Path}
    (h : resolveWithAlias? importAlias importer target = some new) :
    isRelative target = true ∧ new = importAlias ++ resolve importer target := by
  unfold resolveWithAlias? at h
  split at h
  · rename_i hrelative
    exact ⟨hrelative, (Option.some.inj h).symm⟩
  · cases h

/-- Anchoring keeps an end of the target. -/
theorem exists_of_anchor? {importAlias target new : Text} {folders : List Text}
    (h : anchor? importAlias folders target = some new) :
    isRelative target = true ∧ ∃ kept, new = importAlias ++ joinWith '/' kept ∧
      ∀ part ∈ kept, part ∈ splitOn '/' target := by
  unfold anchor? at h
  split at h
  · rename_i hrelative
    split at h
    · cases h
    · refine ⟨hrelative, _, (Option.some.inj h).symm, ?_⟩
      intro part hpart
      exact List.dropWhile_subset _ hpart
  · cases h

theorem mem_anchor? {importAlias target new : Text} {folders : List Text} {x : Char}
    (h : anchor? importAlias folders target = some new) (hx : x ∈ new) :
    x ∈ importAlias ∨ x = '/' ∨ x ∈ target := by
  obtain ⟨-, kept, rfl, hkept⟩ := exists_of_anchor? h
  rcases List.mem_append.1 hx with halias | hrest
  · exact Or.inl halias
  rcases mem_joinWith hrest with hslash | ⟨part, hpart, hx⟩
  · exact Or.inr (Or.inl hslash)
  · exact Or.inr (Or.inr (mem_of_mem_splitOn (hkept part hpart) hx))

end Target

end ImportAlias
