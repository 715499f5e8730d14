/-!
# Texts and bytes

Texts are lists of characters and raw data are lists of bytes. Both are cut at a separator and
joined again by the same two functions; joining undoes cutting.
-/
namespace ImportAlias

abbrev Text := List Char

abbrev Bytes := List UInt8

section Split
variable {α : Type} [DecidableEq α]

/-- There is always one part more than separators, so the empty list has one empty part. -/
def splitOn (sep : α) : List α → List (List α)
  | [] => [[]]
  | a :: rest =>
    if a = sep then [] :: splitOn sep rest
    else match splitOn sep rest with
      | [] => [[a]]
      | part :: parts => (a :: part) :: parts

omit [DecidableEq α] in
def joinWith (sep : α) : List (List α) → List α
  | [] => []
  | [part] => part
  | part :: parts => part ++ sep :: joinWith sep parts

/-- What is left of a list after a given beginning. -/
def restAfter? : List α → List α → Option (List α)
  | [], s => some s
  | _ :: _, [] => none
  | a :: start, b :: s => if a = b then restAfter? start s else none

theorem splitOn_ne_nil (sep : α) (s : List α) : splitOn sep s ≠ [] := by
  cases s with
  | nil => simp [splitOn]
  | cons a rest =>
    rw [splitOn]
    split
    · simp
    · split <;> simp

theorem joinWith_splitOn (sep : α) (s : List α) : joinWith sep (splitOn sep s) = s := by
  induction s with
  | nil => rfl
  | cons a rest ih =>
    have hne := splitOn_ne_nil sep rest
    rw [splitOn]
    cases hs : splitOn sep rest with
    | nil => exact absurd hs hne
    | cons part parts =>
      rw [hs] at ih
      split
      · rename_i h
        simp [joinWith, ih, h]
      · cases parts with
        | nil => simpa [joinWith] using ih
        | cons next more => simpa [joinWith] using ih

end Split

theorem takeWhile_append_drop_length {α : Type} (p : α → Bool) (s : List α) :
    s.takeWhile p ++ s.drop (s.takeWhile p).length = s := by
  induction s with
  | nil => rfl
  | cons a rest ih => by_cases h : p a = true <;> simp [h, ih]

/-- The digits of a number in base ten. -/
def decimal (n : Nat) : Text := Nat.toDigits 10 n

end ImportAlias
