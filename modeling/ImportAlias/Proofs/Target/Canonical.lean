import ImportAlias.Proofs.Target.Navigation

/-!
# The canonical form of a target

Resolving a target leaves steps to the parent, and behind them names. Which lists of segments are
resolved alike is said by `Equivalent`, without a stack: segments that lead nowhere may be left out
anywhere in a list. Each segment acts on the stack by itself, and equivalent lists act alike on every
stack; so no two canonical lists are equivalent, and the order in which segments are left out does
not matter.
-/
namespace ImportAlias

namespace Target

/-- A name, as it stands between two slashes. -/
structure IsName (segment : Text) : Prop where
  ne_nil : segment ≠ []
  ne_here : segment ≠ here
  ne_up : segment ≠ up
  no_slash : '/' ∉ segment

/-- The least congruence on lists of segments under which an empty segment, a `.`, and a name with a
`..` behind it vanish. -/
inductive Equivalent : List Text → List Text → Prop
  | refl (a : List Text) : Equivalent a a
  | symm {a b : List Text} : Equivalent a b → Equivalent b a
  | trans {a b c : List Text} : Equivalent a b → Equivalent b c → Equivalent a c
  | append {a b c d : List Text} : Equivalent a b → Equivalent c d → Equivalent (a ++ c) (b ++ d)
  | empty : Equivalent [[]] []
  | here : Equivalent [here] []
  | back {name : Text} : IsName name → Equivalent [name, up] []

/-- Steps to the parent, and names behind them. -/
def Canonical (segments : List Text) : Prop :=
  ∃ k names, segments = List.replicate k up ++ names ∧ ∀ name ∈ names, IsName name

/-- The stack of a canonical list: names on steps to the parent. -/
inductive Stacked : List Text → Prop
  | ups (k : Nat) : Stacked (List.replicate k up)
  | name {name : Text} {stack : List Text} : IsName name → Stacked stack → Stacked (name :: stack)

variable {segment : Text} {segments stack a b : List Text}

theorem IsName.names (h : IsName segment) : Names segment :=
  ⟨by simp [Folder.stays, h.ne_nil, h.ne_here], h.ne_up⟩

theorem Equivalent.of_stays (h : Folder.stays segment = true) : Equivalent [segment] [] := by
  rw [Folder.stays, Bool.or_eq_true, decide_eq_true_eq, decide_eq_true_eq] at h
  rcases h with rfl | rfl
  · exact .empty
  · exact .here

theorem Stacked.canonical (h : Stacked stack) : Canonical stack.reverse := by
  induction h with
  | ups k =>
    refine ⟨k, [], ?_, ?_⟩
    · rw [List.reverse_replicate, List.append_nil]
    · exact fun _ hnone => absurd hnone List.not_mem_nil
  | @name name stack hname _ ih =>
    obtain ⟨k, names, hnames, hall⟩ := ih
    refine ⟨k, names ++ [name], ?_, ?_⟩
    · rw [List.reverse_cons, hnames, List.append_assoc]
    · intro other hother
      rcases List.mem_append.1 hother with hmem | hmem
      · exact hall other hmem
      · rw [List.mem_singleton.1 hmem]
        exact hname

/-! ## A stack stands for the segments pushed on it -/

/-- A step to the parent lies on such steps, or takes a name back. -/
theorem push_up (h : Stacked stack) :
    Stacked (push stack up) ∧ Equivalent (stack.reverse ++ [up]) (push stack up).reverse := by
  cases h with
  | ups k =>
    have hpush : push (List.replicate k up) up = List.replicate (k + 1) up := by
      cases k <;> rfl
    rw [hpush]
    refine ⟨.ups (k + 1), ?_⟩
    rw [List.replicate_succ, List.reverse_cons]
    exact .refl _
  | @name name stack hname hstack =>
    rw [push_up_of_names hname.names, List.reverse_cons, List.append_assoc]
    refine ⟨hstack, ?_⟩
    have hback := (Equivalent.refl stack.reverse).append (.back hname)
    rwa [List.append_nil] at hback

theorem push_equivalent (h : Stacked stack) (hslash : '/' ∉ segment) :
    Stacked (push stack segment) ∧
      Equivalent (stack.reverse ++ [segment]) (push stack segment).reverse := by
  cases hstays : Folder.stays segment with
  | true =>
    rw [push_of_stays hstays]
    refine ⟨h, ?_⟩
    have hvanish := (Equivalent.refl stack.reverse).append (.of_stays hstays)
    rwa [List.append_nil] at hvanish
  | false =>
    by_cases hup : segment = up
    · rw [hup]
      exact push_up h
    · have hname : IsName segment := by
        rw [Folder.stays, Bool.or_eq_false_iff, decide_eq_false_iff_not, decide_eq_false_iff_not]
          at hstays
        exact ⟨hstays.1, hstays.2, hup, hslash⟩
      rw [push_of_names hname.names, List.reverse_cons]
      exact ⟨.name hname h, .refl _⟩

theorem foldl_push_equivalent (h : Stacked stack) (hslash : ∀ segment ∈ segments, '/' ∉ segment) :
    Stacked (segments.foldl push stack) ∧
      Equivalent (stack.reverse ++ segments) (segments.foldl push stack).reverse := by
  induction segments generalizing stack with
  | nil =>
    rw [List.append_nil]
    exact ⟨h, .refl _⟩
  | cons segment rest ih =>
    obtain ⟨hfirst, hrest⟩ := List.forall_mem_cons.1 hslash
    obtain ⟨hstacked, hpush⟩ := push_equivalent h hfirst
    obtain ⟨hdone, hequiv⟩ := ih hstacked hrest
    refine ⟨hdone, Equivalent.trans ?_ hequiv⟩
    have hstep := hpush.append (.refl rest)
    rwa [List.append_assoc] at hstep

theorem canonical_normalize (h : ∀ segment ∈ segments, '/' ∉ segment) :
    Canonical (normalize segments) :=
  (foldl_push_equivalent (.ups 0) h).1.canonical

theorem equivalent_normalize (h : ∀ segment ∈ segments, '/' ∉ segment) :
    Equivalent segments (normalize segments) :=
  (foldl_push_equivalent (.ups 0) h).2

/-! ## Equivalent segments act alike -/

theorem Equivalent.foldl_push_eq (h : Equivalent a b) (stack : List Text) :
    a.foldl push stack = b.foldl push stack := by
  induction h generalizing stack with
  | refl a => rfl
  | symm _ ih => exact (ih stack).symm
  | trans _ _ ih₁ ih₂ => exact (ih₁ stack).trans (ih₂ stack)
  | append _ _ ih₁ ih₂ => rw [List.foldl_append, List.foldl_append, ih₁, ih₂]
  | empty => rfl
  | here => rfl
  | back hname =>
    rw [List.foldl_cons, List.foldl_cons, push_of_names hname.names, push_up_of_names hname.names]

/-- Two lists have one canonical form exactly if they are equivalent. -/
theorem normalize_eq_iff (ha : ∀ segment ∈ a, '/' ∉ segment) (hb : ∀ segment ∈ b, '/' ∉ segment) :
    normalize a = normalize b ↔ Equivalent a b := by
  constructor
  · intro h
    have hto := equivalent_normalize ha
    rw [h] at hto
    exact hto.trans (equivalent_normalize hb).symm
  · intro h
    rw [normalize, h.foldl_push_eq, normalize]

/-! ## Spelling the canonical form -/

theorem Canonical.eq_up_or_isName (h : Canonical segments) (hmem : segment ∈ segments) :
    segment = up ∨ IsName segment := by
  obtain ⟨k, names, rfl, hnames⟩ := h
  rcases List.mem_append.1 hmem with hups | hname
  · exact Or.inl (List.eq_of_mem_replicate hups)
  · exact Or.inr (hnames segment hname)

theorem Canonical.here_not_mem (h : Canonical segments) : here ∉ segments := by
  intro hmem
  rcases h.eq_up_or_isName hmem with hup | hname
  · cases hup
  · exact hname.ne_here rfl

theorem Canonical.nil_not_mem (h : Canonical segments) : [] ∉ segments := by
  intro hmem
  rcases h.eq_up_or_isName hmem with hup | hname
  · cases hup
  · exact hname.ne_nil rfl

/-- A spelled form can be read back; `.` is the spelling of the empty one only. -/
theorem spell_normalize_eq_iff (ha : ∀ segment ∈ a, '/' ∉ segment)
    (hb : ∀ segment ∈ b, '/' ∉ segment) :
    spell (normalize a) = spell (normalize b) ↔ normalize a = normalize b := by
  constructor
  · intro h
    have hsplit := congrArg (splitOn '/') h
    rw [splitOn_spell_normalize ha, splitOn_spell_normalize hb] at hsplit
    have hnota := (canonical_normalize ha).here_not_mem
    have hnotb := (canonical_normalize hb).here_not_mem
    split at hsplit
    · rename_i hnila
      split at hsplit
      · rename_i hnilb
        rw [hnila, hnilb]
      · rw [← hsplit] at hnotb
        exact absurd (List.mem_singleton_self here) hnotb
    · split at hsplit
      · rw [hsplit] at hnota
        exact absurd (List.mem_singleton_self here) hnota
      · exact hsplit
  · intro h
    rw [h]

/-- No segment that is resolved holds a slash. -/
theorem slash_not_mem_segments (importer : Path) (target : Text) :
    ∀ segment ∈ directorySegments importer ++ splitOn '/' target, '/' ∉ segment := by
  intro segment hsegment
  rcases List.mem_append.1 hsegment with hdirectory | htarget
  · exact not_mem_of_mem_splitOn hdirectory
  · exact not_mem_of_mem_splitOn htarget

theorem resolve_ne_nil (importer : Path) (target : Text) : resolve importer target ≠ [] := by
  have hslash := slash_not_mem_segments importer target
  intro hnil
  have hsplit := splitOn_spell_normalize hslash
  rw [← resolve, hnil] at hsplit
  split at hsplit
  · cases hsplit
  · have hmem := (canonical_normalize hslash).nil_not_mem
    rw [← hsplit] at hmem
    exact hmem (List.mem_singleton_self [])

/-- A resolved target is `.` or the spelling of a canonical list, and two targets are resolved alike
exactly if the segments of their directories and their own are equivalent. -/
theorem resolve_eq_iff_equivalent (importer importer' : Path) (target target' : Text) :
    (resolve importer target = here ∨
      ∃ segments, segments ≠ [] ∧ Canonical segments ∧
        resolve importer target = joinWith '/' segments) ∧
    (resolve importer target = resolve importer' target' ↔
      Equivalent (splitOn '/' (directoryText importer) ++ splitOn '/' target)
        (splitOn '/' (directoryText importer') ++ splitOn '/' target')) := by
  have hslash := slash_not_mem_segments importer target
  have hslash' := slash_not_mem_segments importer' target'
  constructor
  · cases hparts : normalize (directorySegments importer ++ splitOn '/' target) with
    | nil =>
      left
      rw [resolve, hparts]
      rfl
    | cons part parts =>
      right
      refine ⟨part :: parts, by simp, hparts ▸ canonical_normalize hslash, ?_⟩
      rw [resolve, hparts]
      rfl
  · rw [resolve, resolve, spell_normalize_eq_iff hslash hslash', normalize_eq_iff hslash hslash']
    rfl

end Target

end ImportAlias
