import ImportAlias.Proofs.Run.Effects
import Mathlib.Data.List.Induction

/-!
# Saving a document more than once

A document is saved again and again, and nothing else changes its file. Each call compares its text
with the one that was read, not with what the file holds by then. So the file holds the last text
that differs from the one that was read, and that one is never put back: a call with it does nothing
and ends well.
-/
namespace ImportAlias.Document

/-- A document has been saved with these texts, one after the other. Meanwhile the tree may have
changed, but not what is read at the document's path. -/
inductive Saves (d : Document) (t : Tree) : List Text → Tree → Prop
  | start : Saves d t [] t
  | meanwhile {texts : List Text} {before after : Tree} (h : Saves d t texts before)
      (hkept : after.readFile d.path = before.readFile d.path) : Saves d t texts after
  | saved {texts : List Text} {text : Text} {place? : Option Place} {before after : Tree}
      (h : Saves d t texts before) (hsave : d.save before text = .ok (place?, after)) :
      Saves d t (texts ++ [text]) after
  | failed {texts : List Text} {text : Text} {e : Error} {before : Tree}
      (h : Saves d t texts before) (hsave : d.save before text = .error e) :
      Saves d t (texts ++ [text]) before

/-- The last of some texts that is not the one that was read, which it is if there is none. -/
def lastOther (d : Document) (texts : List Text) : Text :=
  texts.foldl (fun last text => if text = d.text then last else text) d.text

variable {d : Document} {t t' : Tree} {root p : Path} {texts : List Text} {bytes : Bytes}

theorem lastOther_concat (d : Document) (texts : List Text) (text : Text) :
    d.lastOther (texts ++ [text]) = if text = d.text then d.lastOther texts else text := by
  rw [lastOther, List.foldl_append]
  rfl

theorem lastOther_eq_text_iff : d.lastOther texts = d.text ↔ ∀ text ∈ texts, text = d.text := by
  induction texts using List.reverseRecOn with
  | nil => simp [lastOther]
  | append_singleton texts text ih =>
    rw [lastOther_concat]
    by_cases htext : text = d.text
    · simp [htext, ih, or_imp]
    · simp [htext]

/-- A document is saved wherever its path leads to a file. -/
theorem exists_save (hread : t.readFile d.path = .ok bytes) (text : Text) :
    ∃ place? after, d.save t text = .ok (place?, after) ∧
      after.readFile d.path = .ok (if text = d.text then bytes else Utf8.encode text) := by
  by_cases htext : text = d.text
  · refine ⟨none, t, ?_, ?_⟩
    · rw [save, if_pos htext]
    · rw [if_pos htext, hread]
  · obtain ⟨place, hlocate⟩ := Tree.exists_locate_of_readFile hread
    have hwrite := Tree.writeFile_of_locate hlocate (Utf8.encode text)
    have hafter := Tree.locate_put_file hlocate (Utf8.encode text)
    refine ⟨some place, t.put place (.file (Utf8.encode text)), ?_, ?_⟩
    · rw [save, if_neg htext, hwrite]
    · rw [if_neg htext, Tree.readFile_of_locate hafter]

theorem readFile_of_load (h : load t root p = .ok d) :
    t.readFile d.path = .ok (Utf8.encode d.text) := by
  obtain ⟨place, bytes, hlocate, hdecode, rfl, -⟩ := exists_locate_of_load h
  rw [Tree.readFile_of_locate hlocate, Utf8.encode_of_decode? hdecode]

/-- All along, the file holds the last text that differs from the one that was read. -/
theorem Saves.readFile_eq (hload : load t root p = .ok d) (h : Saves d t texts t') :
    t'.readFile d.path = .ok (Utf8.encode (d.lastOther texts)) := by
  induction h with
  | start => exact readFile_of_load hload
  | meanwhile _ hkept ih => rw [hkept, ih]
  | @saved texts text place? before after _ hsave ih =>
    obtain ⟨_, _, hok, hread⟩ := exists_save ih text
    obtain ⟨-, rfl⟩ := Prod.mk.inj (Except.ok.inj (hsave.symm.trans hok))
    rw [hread, lastOther_concat]
    split <;> rfl
  | @failed texts text e before _ hsave ih =>
    -- As the file is still there, no call fails.
    obtain ⟨_, _, hok, -⟩ := exists_save ih text
    rw [hsave] at hok
    cases hok

/-- However often a document has been saved, it can be saved once more. The file then holds the last
text that differs from the one that was read. That is the text of this call exactly if it differs
from the one that was read, or if no other text has been saved before. -/
theorem readFile_save_iff (hload : load t root p = .ok d) (h : Saves d t texts t') (text : Text) :
    ∃ place? after, d.save t' text = .ok (place?, after) ∧
      after.readFile d.path = .ok (Utf8.encode (d.lastOther (texts ++ [text]))) ∧
      (after.readFile d.path = .ok (Utf8.encode text) ↔
        text ≠ d.text ∨ ∀ earlier ∈ texts, earlier = d.text) := by
  obtain ⟨place?, after, hsave, -⟩ := exists_save (h.readFile_eq hload) text
  have hread := (h.saved hsave).readFile_eq hload
  refine ⟨place?, after, hsave, hread, ?_⟩
  have hholds : after.readFile d.path = .ok (Utf8.encode text) ↔
      d.lastOther (texts ++ [text]) = text := by
    rw [hread]
    exact ⟨fun heq => Utf8.encode_injective (Except.ok.inj heq), fun heq => by rw [heq]⟩
  rw [hholds, lastOther_concat]
  by_cases htext : text = d.text
  · simp [htext, lastOther_eq_text_iff]
  · simp [htext]

section Sample

def oldDocument : Document where
  path := Path.ofText "m.ts".toList
  relative := Path.ofText "m.ts".toList
  text := "old".toList

def oldTree : Tree :=
  (Tree.empty {} []).put [.ofText "m.ts".toList] (.file (Utf8.encode oldDocument.text))

/-- A new text is saved and then the old one again: that call ends well, and the file keeps the new
one. -/
theorem readFile_save_old :
    load oldTree (Path.ofText ".".toList) oldDocument.path = .ok oldDocument ∧
      ∃ changed, Saves oldDocument oldTree ["new".toList] changed ∧
        ∃ place? after, oldDocument.save changed "old".toList = .ok (place?, after) ∧
          after.readFile oldDocument.path = .ok (Utf8.encode "new".toList) ∧
          after.readFile oldDocument.path ≠ .ok (Utf8.encode "old".toList) := by
  have hload : load oldTree (Path.ofText ".".toList) oldDocument.path = .ok oldDocument := by
    decide +kernel
  obtain ⟨_, changed, hsave, -⟩ := readFile_save_iff hload .start "new".toList
  have hchanged : Saves oldDocument oldTree ["new".toList] changed := Saves.start.saved hsave
  obtain ⟨place?, after, hagain, hread, hiff⟩ := readFile_save_iff hload hchanged "old".toList
  refine ⟨hload, changed, hchanged, place?, after, hagain, hread, ?_⟩
  rw [Ne, hiff]
  decide +kernel

end Sample

end ImportAlias.Document
