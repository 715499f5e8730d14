import ImportAlias.Proofs.Run.Ledger

/-!
# How a run goes that nothing interferes with

What a walk through the tree comes to at the start of a run settles where the run ends, if its
listener leaves the tree alone. The run comes through one file after the other until its listener
fails, until the walk comes to something that cannot be read (`Run.Breaks`), or until all files are
done; `Run.Course` has a case for each.
-/
namespace ImportAlias

namespace Run

/-- The walk comes to some texts, and then to something that cannot be read. -/
def Breaks (s : Settings) (t : Tree) (out : List (Except Error Path)) (before : List Path)
    (e : Error) : Prop :=
  ∃ (first : Except Error Path) (rest : List (Except Error Path)),
    out = before.map .ok ++ first :: rest ∧ (∀ p ∈ before, IsText t p) ∧
      (first = .error e ∨ ∃ p, first = .ok p ∧ Document.load t s.root p = .error e)

section Breaks
variable {s : Settings} {t : Tree} {found : List (Except Error Path)} {before done done' : List Path}
  {p : Path} {e e' : Error}

theorem breaks_head {first : Except Error Path}
    (h : first = .error e ∨ ∃ p, first = .ok p ∧ Document.load t s.root p = .error e)
    (rest : List (Except Error Path)) : Breaks s t (first :: rest) [] e :=
  ⟨first, rest, rfl, by simp, h⟩

theorem Breaks.cons (h : Breaks s t found done e) (htext : IsText t p) :
    Breaks s t (.ok p :: found) (p :: done) e := by
  obtain ⟨first, rest, rfl, hdone, hfirst⟩ := h
  exact ⟨first, rest, rfl, List.forall_mem_cons.2 ⟨htext, hdone⟩, hfirst⟩

/-- A list breaks at its first element, or that is a text and the others break. -/
theorem Breaks.of_cons {first : Except Error Path} {rest : List (Except Error Path)}
    (h : Breaks s t (first :: rest) done e) :
    (done = [] ∧ (first = .error e ∨ ∃ p, first = .ok p ∧ Document.load t s.root p = .error e)) ∨
      ∃ p more, done = p :: more ∧ first = .ok p ∧ IsText t p ∧ Breaks s t rest more e := by
  obtain ⟨bad, later, hsplit, htext, hbad⟩ := h
  cases done with
  | nil =>
    obtain ⟨rfl, rfl⟩ := List.cons.inj hsplit
    exact Or.inl ⟨rfl, hbad⟩
  | cons p more =>
    obtain ⟨rfl, rfl⟩ := List.cons.inj hsplit
    obtain ⟨hp, hmore⟩ := List.forall_mem_cons.1 htext
    exact Or.inr ⟨p, more, rfl, rfl, hp, bad, later, rfl, hmore, hbad⟩

/-- A list does not break at a text. -/
theorem Breaks.of_cons_text {rest : List (Except Error Path)} (hp : IsText t p)
    (h : Breaks s t (.ok p :: rest) done e) : ∃ more, done = p :: more ∧ Breaks s t rest more e := by
  rcases h.of_cons with ⟨-, herror | ⟨_, hok, hload⟩⟩ | ⟨_, more, rfl, hok, -, hmore⟩
  · cases herror
  · cases hok
    exact absurd hload (load_ne_error hp _ _)
  · cases hok
    exact ⟨more, rfl, hmore⟩

/-- A list that starts with texts breaks behind them. -/
theorem Breaks.exists_of_texts {rest : List (Except Error Path)} (htext : ∀ p ∈ before, IsText t p)
    (h : Breaks s t (before.map .ok ++ rest) done e) :
    ∃ more, done = before ++ more ∧ Breaks s t rest more e := by
  induction before generalizing done with
  | nil => exact ⟨done, rfl, h⟩
  | cons p before ih =>
    obtain ⟨hp, hbefore⟩ := List.forall_mem_cons.1 htext
    obtain ⟨more, rfl, hmore⟩ := h.of_cons_text hp
    obtain ⟨last, rfl, hlast⟩ := ih hbefore hmore
    exact ⟨last, rfl, hlast⟩

/-- There is one point only where a list can break. -/
theorem Breaks.unique (h : Breaks s t found done e) (h' : Breaks s t found done' e') :
    done = done' ∧ e = e' := by
  obtain ⟨first, rest, rfl, htext, hbad⟩ := h
  obtain ⟨more, rfl, hmore⟩ := h'.exists_of_texts htext
  rcases hmore.of_cons with ⟨rfl, hbad'⟩ | ⟨p, -, -, rfl, hp, -⟩
  · refine ⟨(List.append_nil done).symm, ?_⟩
    rcases hbad with rfl | ⟨p, rfl, hload⟩
    · rcases hbad' with heq | ⟨_, heq, -⟩
      · exact Except.error.inj heq
      · cases heq
    · rcases hbad' with heq | ⟨_, heq, hload'⟩
      · cases heq
      · cases heq
        exact Except.error.inj (hload.symm.trans hload')
  · rcases hbad with heq | ⟨_, heq, hload⟩
    · cases heq
    · cases heq
      exact absurd hload (load_ne_error hp _ _)

theorem not_breaks {paths : List Path} (htext : ∀ p ∈ paths, IsText t p) (e : Error) :
    ¬ Breaks s t (paths.map .ok) before e := by
  intro h
  rw [← List.append_nil (paths.map _)] at h
  obtain ⟨more, -, first, rest, hnil, -⟩ := h.exists_of_texts htext
  simp at hnil

end Breaks

/-- How a run goes on that has come through some files and has others before it, to be worked off in
`n` steps, if it is followed for `fuel` steps. -/
inductive Course {σ : Type} (l : Listener σ) (a : σ) (s : Settings) (t : Tree) (done : List Path)
    (out : List (Except Error Path)) (n fuel : Nat) (outcome : Outcome σ) : Prop
  | unfinished (hfuel : fuel ≤ n) (hresult : outcome.result? = none)
  | unstarted {reason : Text} (hanswer : (l.hear a (.start s) t).2.failure? = some reason)
      (hresult : outcome.result? = some (.error (.output reason)))
  | refused {before : List Path} {p : Path} {rest : List (Except Error Path)} {reason : Text}
      (hout : out = before.map .ok ++ .ok p :: rest) (htaken : Taken l a s t (done ++ before))
      (hanswer : answer? l a s t (done ++ before) p = some reason)
      (htreated : Treated l a s t (done ++ (before ++ [p])) outcome.state)
      (hresult : outcome.result? = some (.error (.output reason)))
  | broken {before : List Path} {e : Error} (hbreaks : Breaks s t out before e)
      (hledger : Ledger l a s t (done ++ before) outcome.state)
      (hresult : outcome.result? = some (.error e))
  | complete {paths : List Path} {last : State σ} (hout : out = paths.map .ok)
      (htext : ∀ p ∈ paths, IsText t p) (hledger : Ledger l a s t (done ++ paths) last)
      (hpending : last.pending = []) (hlast : outcome = step l s last)

section Course
variable {σ : Type} {l : Listener σ} {a : σ} {s : Settings} {t : Tree} {done : List Path} {p : Path}
  {st : State σ} {out : List (Except Error Path)} {n fuel : Nat} {outcome : Outcome σ}

theorem Course.succ (h : Course l a s t done out n fuel outcome) :
    Course l a s t done out (n + 1) (fuel + 1) outcome := by
  cases h with
  | unfinished hfuel hresult => exact .unfinished (Nat.succ_le_succ hfuel) hresult
  | unstarted hanswer hresult => exact .unstarted hanswer hresult
  | refused hout htaken hanswer htreated hresult =>
    exact .refused hout htaken hanswer htreated hresult
  | broken hbreaks hledger hresult => exact .broken hbreaks hledger hresult
  | complete hout htext hledger hpending hlast => exact .complete hout htext hledger hpending hlast

theorem Course.cons (htext : IsText t p) (h : Course l a s t (done ++ [p]) out n fuel outcome) :
    Course l a s t done (.ok p :: out) n fuel outcome := by
  cases h with
  | unfinished hfuel hresult => exact .unfinished hfuel hresult
  | unstarted hanswer hresult => exact .unstarted hanswer hresult
  | @refused before q rest reason hout htaken hanswer htreated hresult =>
    rw [List.append_assoc] at htaken hanswer htreated
    have hsplit : .ok p :: out = (p :: before).map .ok ++ .ok q :: rest := by
      rw [hout]
      rfl
    exact .refused hsplit htaken hanswer htreated hresult
  | broken hbreaks hledger hresult =>
    rw [List.append_assoc] at hledger
    exact .broken (hbreaks.cons htext) hledger hresult
  | @complete paths last hout hpaths hledger hpending hlast =>
    rw [List.append_assoc] at hledger
    exact .complete (by rw [hout]; rfl) (List.forall_mem_cons.2 ⟨htext, hpaths⟩) hledger hpending
      hlast

theorem Ledger.course_file {rest : List Walk.Item} (h : Ledger l a s t done st)
    (hpassive : l.Passive) (hlisted : t.Listed (done ++ [p]))
    (hpending : st.pending = .file p :: rest)
    (ih : ∀ st', Ledger l a s t (done ++ [p]) st' → st'.pending = rest →
      Course l a s t (done ++ [p]) out n fuel (steps l s fuel st')) :
    Course l a s t done (.ok p :: out) (n + 1) (fuel + 1) (steps l s (fuel + 1) st) := by
  rcases h.step_file hpassive hlisted hpending with
    ⟨e, hload, hstays, hresult⟩ | ⟨reason, hanswer, htreated, hresult⟩ |
      ⟨htext, hnext, hrest, hresult⟩
  · rw [steps_succ_of_some hresult]
    exact .broken (breaks_head (Or.inr ⟨p, rfl, hload⟩) out) (by simpa using hstays) hresult
  · rw [steps_succ_of_some hresult]
    have hsplit : .ok p :: out = ([] : List Path).map .ok ++ .ok p :: out := rfl
    exact .refused hsplit (by simpa using h.taken) (by simpa using hanswer) htreated hresult
  · rw [steps_succ_of_none hresult]
    exact ((ih _ hnext hrest).succ).cons htext

theorem Ledger.course {pending : List Walk.Item}
    (hyields : Walk.Yields s.selection t pending out n) (h : Ledger l a s t done st)
    (hpassive : l.Passive) (hpending : st.pending = pending)
    (hlisted : ∀ (before : List Path) rest, out = before.map .ok ++ rest →
      t.Listed (done ++ before)) (fuel : Nat) :
    Course l a s t done out n fuel (Run.steps l s fuel st) := by
  -- The tree has kept its shape, so a look into a directory finds what it found at the start.
  have hnow : ∀ {st : State σ} {done : List Path}, Ledger l a s t done st →
      t.Listed (done ++ []) → ∀ item, Walk.expand s.selection st.tree item =
        Walk.expand s.selection t item := by
    intro st done h hdone item
    rw [List.append_nil] at hdone
    exact Walk.expand_eq_of_shape_eq (h.shape hdone) item
  induction hyields generalizing st done fuel with
  | done =>
    cases fuel with
    | zero => exact .unfinished (Nat.le_refl 0) rfl
    | succ fuel =>
      obtain ⟨-, -, -, hresult⟩ := h.step_finish hpassive hpending
      have hout : ([] : List (Except Error Path)) = ([] : List Path).map .ok := rfl
      have hledger : Ledger l a s t (done ++ []) st := by
        rw [List.append_nil]
        exact h
      exact .complete hout (by simp) hledger hpending (steps_succ_of_some hresult fuel)
  | @file p rest out n _ ih =>
    cases fuel with
    | zero => exact .unfinished (Nat.zero_le _) rfl
    | succ fuel =>
      refine h.course_file hpassive (hlisted [p] out rfl) hpending ?_
      intro st' hnext hrest
      refine ih hnext hrest ?_ fuel
      intro before rest hout
      rw [List.append_assoc]
      exact hlisted (p :: before) rest (by rw [hout]; rfl)
  | @opened item items rest out n hitem hexpand _ ih =>
    cases fuel with
    | zero => exact .unfinished (Nat.zero_le _) rfl
    | succ fuel =>
      obtain ⟨hworld, -, hsummary, ⟨items', hopened, hrest, hresult⟩ | ⟨e, hfailed, -⟩⟩ :=
        step_open (l := l) (s := s) hitem hpending
      · rw [hnow h (hlisted [] _ rfl), hexpand] at hopened
        cases hopened
        rw [steps_succ_of_none hresult]
        exact (ih (h.of_world_eq hworld hsummary) hrest hlisted fuel).succ
      · rw [hnow h (hlisted [] _ rfl), hexpand] at hfailed
        cases hfailed
  | @failed item rest e out n hexpand _ _ =>
    cases fuel with
    | zero => exact .unfinished (Nat.zero_le _) rfl
    | succ fuel =>
      have hitem : ∀ q, item ≠ .file q := by
        rintro q rfl
        cases hexpand
      obtain ⟨hworld, -, hsummary, ⟨items, hopened, -⟩ | ⟨e', hfailed, -, hresult⟩⟩ :=
        step_open (l := l) (s := s) hitem hpending
      · rw [hnow h (hlisted [] _ rfl), hexpand] at hopened
        cases hopened
      · rw [hnow h (hlisted [] _ rfl), hexpand] at hfailed
        cases hfailed
        have hstays := h.of_world_eq hworld hsummary
        rw [steps_succ_of_some hresult]
        exact .broken (breaks_head (Or.inl rfl) out) (by simpa using hstays) hresult

end Course

section Runs
variable {σ : Type} {l : Listener σ} {a : σ} {s : Settings} {t : Tree}

/-- How a run goes whose listener leaves the tree alone. -/
theorem course_heard (hpassive : l.Passive) {found : List (Except Error Path)}
    (hfiles : Walk.files s.selection t s.root = .ok found) (a : σ) (budget : Nat) :
    ∃ n, n < Walk.budget t ∧ Course l a s t [] found n budget (heard budget l a s t) := by
  have hdir := Walk.isDir_of_files hfiles
  obtain ⟨n, hn, hyields⟩ := Walk.exists_yields_root (s := s.selection) hdir
  have hlisted : ∀ (before : List Path) rest, found = before.map .ok ++ rest →
      t.Listed ([] ++ before) := by
    intro before rest hfound
    rw [hfound] at hfiles
    exact Walk.listed_of_files hfiles
  rw [Walk.files_eq hdir] at hfiles
  rw [Except.ok.inj hfiles] at hyields
  obtain ⟨-, hpending, -, -, hanswer⟩ := call_told l (initial s a t) (.start s)
  refine ⟨n, by omega, ?_⟩
  rw [heard, if_pos hdir]
  cases hfails : (l.hear a (.start s) t).2.failure? with
  | none =>
    have hledger := ledger_start hpassive hfails
    have hgoes : (call l (initial s a t) (.start s)).2 = none :=
      hanswer.trans (congrArg _ hfails)
    generalize call l (initial s a t) (.start s) = called at hledger hpending hgoes ⊢
    obtain ⟨st, failure?⟩ := called
    subst hgoes
    exact hledger.course hyields hpassive hpending hlisted budget
  | some reason =>
    have hstops : (call l (initial s a t) (.start s)).2 = some (.output reason) :=
      hanswer.trans (congrArg _ hfails)
    generalize call l (initial s a t) (.start s) = called at hstops ⊢
    obtain ⟨st, failure?⟩ := called
    subst hstops
    exact .unstarted hfails rfl

/-- A run that ends well has come through all that its walk finds. -/
theorem exists_of_heard_ok (hpassive : l.Passive) {budget : Nat} {summary : Summary}
    (h : (heard budget l a s t).result? = some (.ok summary)) :
    ∃ paths last, Walk.files s.selection t s.root = .ok (paths.map .ok) ∧
      (∀ p ∈ paths, IsText t p) ∧ Ledger l a s t paths last ∧ last.pending = [] ∧
      heard budget l a s t = step l s last ∧ summary = tally s t paths ∧
      last.world.answer? l (.finish summary) = none := by
  have hdir : t.isDir s.root = true := by
    cases hdir : t.isDir s.root with
    | true => rfl
    | false =>
      rw [heard, hdir] at h
      cases h
  have hfiles := Walk.files_eq (s := s.selection) hdir
  obtain ⟨n, -, hcourse⟩ := course_heard hpassive hfiles a budget
  cases hcourse with
  | unfinished _ hresult =>
    rw [hresult] at h
    cases h
  | unstarted _ hresult =>
    rw [hresult] at h
    cases h
  | refused _ _ _ _ hresult =>
    rw [hresult] at h
    cases h
  | broken _ _ hresult =>
    rw [hresult] at h
    cases h
  | @complete paths last hout htext hledger hpending hlast =>
    rw [hout] at hfiles
    refine ⟨paths, last, hfiles, htext, hledger, hpending, hlast, ?_⟩
    obtain ⟨-, -, -, hresult⟩ := hledger.step_finish hpassive hpending
    rw [← hlast, h] at hresult
    cases hanswer : last.world.answer? l (.finish (tally s t paths)) with
    | some reason =>
      rw [List.nil_append, hanswer] at hresult
      cases hresult
    | none =>
      rw [List.nil_append, hanswer] at hresult
      cases hresult
      exact ⟨rfl, hanswer⟩

/-- A run through texts only comes to its end, if the listener takes all that happens before. -/
theorem exists_of_texts (hpassive : l.Passive) {paths : List Path}
    (hfiles : Walk.files s.selection t s.root = .ok (paths.map .ok))
    (htext : ∀ p ∈ paths, IsText t p)
    (htakes : ∀ a e t, (∀ summary, e ≠ .finish summary) → (l.hear a e t).2.failure? = none)
    {budget : Nat} (hbudget : Walk.budget t ≤ budget) (a : σ) :
    ∃ last, Ledger l a s t paths last ∧ last.pending = [] ∧
      heard budget l a s t = step l s last := by
  obtain ⟨n, hn, hcourse⟩ := course_heard hpassive hfiles a budget
  cases hcourse with
  | unfinished hfuel _ => omega
  | unstarted hanswer _ =>
    rw [htakes _ _ _ (fun summary heq => by cases heq)] at hanswer
    cases hanswer
  | refused _ _ hanswer _ _ => exact absurd hanswer (answer?_ne_some htakes)
  | broken hbreaks _ _ => exact absurd hbreaks (not_breaks htext _)
  | @complete paths' last hout _ hledger hpending hlast =>
    have hsame : paths = paths' := (List.map_inj_right fun _ _ => Except.ok.inj).1 hout
    rw [hsame]
    exact ⟨last, hledger, hpending, hlast⟩

end Runs

end Run

end ImportAlias
