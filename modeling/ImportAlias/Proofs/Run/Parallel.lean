import ImportAlias.Proofs.Run.Course
import Mathlib.Data.List.Forall2

/-!
# Two runs through one tree

Two runs start from the same tree, and their walks come to things that fare alike, one by one: both
are errors, or both cannot be read, or both are texts to which the same is due. If the listeners
leave the tree alone and do not stop the runs, these end alike: both at the same point and for the
same reason, or both at their end. What counts as the same error is up to a relation, and what
counts as the same due up to a view of it.
-/
namespace ImportAlias

namespace Run

/-- What one walk comes to fares as what another comes to. -/
inductive Alike {β : Type} (E : Error → Error → Prop) (view : Due → β) (s s' : Settings)
    (t : Tree) : Except Error Path → Except Error Path → Prop
  | failed {e e' : Error} (h : E e e') : Alike E view s s' t (.error e) (.error e')
  | unreadable {p p' : Path} {e e' : Error} (hload : Document.load t s.root p = .error e)
      (hload' : Document.load t s'.root p' = .error e') (h : E e e') :
      Alike E view s s' t (.ok p) (.ok p')
  | text {p p' : Path} (htext : IsText t p) (htext' : IsText t p')
      (hdue : (due? s t p).map view = (due? s' t p').map view) :
      Alike E view s s' t (.ok p) (.ok p')

/-- Two runs that have come through these files have had the same to do. -/
structure InStep {β : Type} (view : Due → β) (s s' : Settings) (t : Tree)
    (done done' : List Path) : Prop where
  length : done.length = done'.length
  dues : (dues s t done).map view = (dues s' t done').map view

section Found
variable {β : Type} {E : Error → Error → Prop} {view : Due → β} {s s' : Settings} {t : Tree}
  {found found' : List (Except Error Path)} {done done' paths : List Path} {p p' : Path}
  {e e' : Error}

theorem inStep_nil : InStep view s s' t [] [] := by
  constructor
  · rfl
  · simp only [Run.dues, List.filterMap_nil]

theorem map_dues_cons (p : Path) (done : List Path) : (dues s t (p :: done)).map view =
    ((due? s t p).map view).toList ++ (dues s t done).map view := by
  rw [dues, dues, List.filterMap_cons]
  cases due? s t p with
  | none => rfl
  | some d => rfl

theorem InStep.cons (h : InStep view s s' t done done')
    (hdue : (due? s t p).map view = (due? s' t p').map view) :
    InStep view s s' t (p :: done) (p' :: done') := by
  constructor
  · simp [h.length]
  · rw [map_dues_cons, map_dues_cons, hdue, h.dues]

/-- What is due depends on the root and the rule, and on nothing else in the settings. -/
theorem due?_congr (hroot : s.root = s'.root) (hrule : Rule.ofSettings s = Rule.ofSettings s') :
    due? s t p = due? s' t p := by
  rw [due?, due?, hroot, hrule]

/-- Under settings with the same root and the same rule a walk comes to things that fare alike. -/
theorem alike_of_rule_eq (hroot : s.root = s'.root)
    (hrule : Rule.ofSettings s = Rule.ofSettings s') (t : Tree)
    (found : List (Except Error Path)) : List.Forall₂ (Alike Eq id s s' t) found found := by
  refine List.forall₂_same.2 ?_
  intro one _
  cases one with
  | error e => exact .failed rfl
  | ok p =>
    cases hload : Document.load t s.root p with
    | error e => exact .unreadable hload (hroot ▸ hload) rfl
    | ok d =>
      have htext := isText_of_load hload
      exact .text htext htext (congrArg (Option.map id) (due?_congr hroot hrule))

/-- Two lists that are alike break at the same point. -/
theorem exists_breaks (h : List.Forall₂ (Alike E view s s' t) found found')
    (hbreaks : Breaks s t found done e) :
    ∃ done' e', Breaks s' t found' done' e' ∧ E e e' ∧ InStep view s s' t done done' := by
  induction h generalizing done with
  | nil =>
    obtain ⟨_, _, hsplit, -⟩ := hbreaks
    simp at hsplit
  | @cons first first' rest rest' hhead _ ih =>
    cases hhead with
    | failed heq =>
      obtain ⟨rfl, rfl⟩ := hbreaks.unique (breaks_head (Or.inl rfl) rest)
      exact ⟨[], _, breaks_head (Or.inl rfl) rest', heq, inStep_nil⟩
    | @unreadable p p' e₁ e' hload hload' heq =>
      obtain ⟨rfl, rfl⟩ := hbreaks.unique (breaks_head (Or.inr ⟨p, rfl, hload⟩) rest)
      exact ⟨[], e', breaks_head (Or.inr ⟨p', rfl, hload'⟩) rest', heq, inStep_nil⟩
    | @text p p' hp hp' hdue =>
      obtain ⟨more, rfl, hmore⟩ := hbreaks.of_cons_text hp
      obtain ⟨done', e', hbreaks', heq, hstep⟩ := ih hmore
      exact ⟨p' :: done', e', hbreaks'.cons hp', heq, hstep.cons hdue⟩

/-- What is alike to texts is texts. -/
theorem exists_texts (h : List.Forall₂ (Alike E view s s' t) (paths.map .ok) found')
    (htext : ∀ p ∈ paths, IsText t p) :
    ∃ paths', found' = paths'.map .ok ∧ (∀ p ∈ paths', IsText t p) ∧
      InStep view s s' t paths paths' := by
  induction paths generalizing found' with
  | nil =>
    obtain rfl := List.forall₂_nil_left_iff.1 h
    exact ⟨[], rfl, by simp, inStep_nil⟩
  | cons p paths ih =>
    obtain ⟨hp, hpaths⟩ := List.forall_mem_cons.1 htext
    obtain ⟨first', rest', hhead, htail, rfl⟩ := List.forall₂_cons_left_iff.1 h
    obtain ⟨paths', rfl, htext', hstep⟩ := ih htail hpaths
    cases hhead with
    | unreadable hload _ _ => exact absurd hload (load_ne_error hp _ _)
    | @text _ p' _ hp' hdue =>
      exact ⟨p' :: paths', rfl, List.forall_mem_cons.2 ⟨hp', htext'⟩, hstep.cons hdue⟩

end Found

/-- What a run that came through some files has done by its end; that it has come to its end is told
if it has ended well. -/
structure Came {σ : Type} (s : Settings) (t : Tree) (done : List Path) (out : Outcome σ) : Prop where
  tree : out.state.tree = treeAfter s t done
  writes : out.state.writes = if s.dryRun then [] else (dues s t done).map Due.write
  events : out.state.events = .start s :: (dues s t done).map (fun d => .change d.change) ++
    (out.result?.bind Except.toOption).toList.map .finish

section Runs
variable {σ : Type} {l : Listener σ} {a : σ} {s : Settings} {t : Tree} {done : List Path}
  {st : State σ} {out : Outcome σ} {found : List (Except Error Path)} {budget : Nat}

theorem Came.changes (h : Came s t done out) :
    out.state.events.filterMap Event.change? = (dues s t done).map Due.change := by
  have hchanges : ∀ ds : List Due,
      (ds.map fun d => Event.change d.change).filterMap Event.change? = ds.map Due.change := by
    intro ds
    rw [List.filterMap_map]
    exact congrFun List.filterMap_eq_map ds
  have hend : ∀ summaries : List Summary,
      (summaries.map Event.finish).filterMap Event.change? = [] := by
    intro summaries
    rw [List.filterMap_map]
    exact List.filterMap_eq_nil_iff.2 fun _ _ => rfl
  rw [h.events, List.filterMap_append, hend, List.append_nil]
  exact hchanges _

theorem Ledger.came (h : Ledger l a s t done out.state) {e : Error}
    (hresult : out.result? = some (.error e)) : Came s t done out := by
  refine ⟨h.tree, h.writes, ?_⟩
  rw [h.events, hresult]
  exact (List.append_nil _).symm

theorem Ledger.came_finish (h : Ledger l a s t done st) (hpassive : l.Passive)
    (hpending : st.pending = [])
    (hanswer : st.world.answer? l (.finish (tally s t done)) = none) :
    Came s t done (step l s st) ∧ (step l s st).result? = some (.ok (tally s t done)) := by
  obtain ⟨htree, hwrites, hevents, hresult⟩ := h.step_finish hpassive hpending
  rw [hanswer] at hresult
  refine ⟨⟨htree, hwrites.trans h.writes, ?_⟩, hresult⟩
  rw [hevents, h.events, hresult]
  rfl

/-- A run that its listener does not stop breaks where its walk does, or ends well. -/
theorem exists_came (hpassive : l.Passive)
    (hfiles : Walk.files s.selection t s.root = .ok found) (hbudget : Walk.budget t ≤ budget)
    (htakes : ∀ reason, (heard budget l a s t).result? ≠ some (.error (.output reason))) :
    ∃ done, Came s t done (heard budget l a s t) ∧
      ((∃ e, Breaks s t found done e ∧ (heard budget l a s t).result? = some (.error e)) ∨
        found = done.map .ok ∧ (∀ p ∈ done, IsText t p) ∧
          (heard budget l a s t).result? = some (.ok (tally s t done))) := by
  obtain ⟨n, hn, hcourse⟩ := course_heard hpassive hfiles a budget
  cases hcourse with
  | unfinished hfuel _ => omega
  | unstarted _ hresult => exact absurd hresult (htakes _)
  | refused _ _ _ _ hresult => exact absurd hresult (htakes _)
  | @broken before e hbreaks hledger hresult =>
    exact ⟨before, hledger.came hresult, Or.inl ⟨e, hbreaks, hresult⟩⟩
  | @complete paths last hfound htext hledger hpending hlast =>
    rw [hlast] at htakes ⊢
    cases hanswer : last.world.answer? l (.finish (tally s t paths)) with
    | some reason =>
      obtain ⟨-, -, -, hresult⟩ := hledger.step_finish hpassive hpending
      rw [List.nil_append, hanswer] at hresult
      exact absurd hresult (htakes reason)
    | none =>
      obtain ⟨hcame, hresult⟩ := hledger.came_finish hpassive hpending hanswer
      exact ⟨paths, hcame, Or.inr ⟨hfound, htext, hresult⟩⟩

end Runs

section Both
variable {σ τ β : Type} {l : Listener σ} {l' : Listener τ} {a : σ} {a' : τ} {s s' : Settings}
  {t : Tree} {found found' : List (Except Error Path)} {budget budget' : Nat}
  {E : Error → Error → Prop} {view : Due → β}

/-- Two runs that are not stopped, and whose walks come to what is alike, end alike. -/
theorem exists_inStep (halike : List.Forall₂ (Alike E view s s' t) found found')
    (hfiles : Walk.files s.selection t s.root = .ok found)
    (hfiles' : Walk.files s'.selection t s'.root = .ok found')
    (hpassive : l.Passive) (hpassive' : l'.Passive)
    (hbudget : Walk.budget t ≤ budget) (hbudget' : Walk.budget t ≤ budget')
    (htakes : ∀ reason, (heard budget l a s t).result? ≠ some (.error (.output reason)))
    (htakes' : ∀ reason, (heard budget' l' a' s' t).result? ≠ some (.error (.output reason))) :
    let out := heard budget l a s t
    let out' := heard budget' l' a' s' t
    ∃ done done', Came s t done out ∧ Came s' t done' out' ∧
      InStep view s s' t done done' ∧
      ((∃ e e', E e e' ∧ out.result? = some (.error e) ∧ out'.result? = some (.error e')) ∨
        out.result? = some (.ok (tally s t done)) ∧
          out'.result? = some (.ok (tally s' t done'))) := by
  intro out out'
  obtain ⟨done, hcame, hend⟩ := exists_came hpassive hfiles hbudget htakes
  obtain ⟨done', hcame', hend'⟩ := exists_came hpassive' hfiles' hbudget' htakes'
  refine ⟨done, done', hcame, hcame', ?_⟩
  rcases hend with ⟨e, hbreaks, hresult⟩ | ⟨rfl, htext, hresult⟩
  · obtain ⟨before, e', hbreaks', heq, hstep⟩ := exists_breaks halike hbreaks
    rcases hend' with ⟨e₁, hbreaks₁, hresult'⟩ | ⟨rfl, htext', -⟩
    · obtain ⟨rfl, rfl⟩ := hbreaks₁.unique hbreaks'
      exact ⟨hstep, Or.inl ⟨e, e₁, heq, hresult, hresult'⟩⟩
    · exact absurd hbreaks' (not_breaks htext' _)
  · obtain ⟨paths, rfl, htext', hstep⟩ := exists_texts halike htext
    rcases hend' with ⟨e₁, hbreaks₁, -⟩ | ⟨hsame, -, hresult'⟩
    · exact absurd hbreaks₁ (not_breaks htext' _)
    · obtain rfl : paths = done' := (List.map_inj_right fun _ _ => Except.ok.inj).1 hsame
      exact ⟨hstep, Or.inr ⟨hresult, hresult'⟩⟩

/-- Runs with the same settings tell their listeners of the same events, whoever these are. -/
theorem events_heard_eq (hpassive : l.Passive) (hpassive' : l'.Passive)
    (hbudget : Walk.budget t ≤ budget) (hbudget' : Walk.budget t ≤ budget')
    (htakes : ∀ reason, (heard budget l a s t).result? ≠ some (.error (.output reason)))
    (htakes' : ∀ reason, (heard budget' l' a' s t).result? ≠ some (.error (.output reason))) :
    (heard budget l a s t).state.events = (heard budget' l' a' s t).state.events := by
  by_cases hdir : t.isDir s.root = true
  · have hfiles := Walk.files_eq (s := s.selection) hdir
    obtain ⟨done, done', hcame, hcame', hstep, hend⟩ := exists_inStep (alike_of_rule_eq rfl rfl t _)
      hfiles hfiles hpassive hpassive' hbudget hbudget' htakes htakes'
    have hdues : dues s t done = dues s t done' := by simpa using hstep.dues
    rw [hcame.events, hcame'.events, hdues]
    rcases hend with ⟨e, _, rfl, herror, herror'⟩ | ⟨hok, hok'⟩
    · rw [herror, herror']
    · have htally : tally s t done = tally s t done' := by rw [tally, tally, hdues, hstep.length]
      rw [hok, hok', htally]
  · rw [heard_of_not_isDir hdir, heard_of_not_isDir hdir]
    rfl

end Both

end Run

end ImportAlias
