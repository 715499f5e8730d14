import ImportAlias.Proofs.Run.Visits

/-!
# A run that nothing interferes with

If the listener leaves the tree alone, the tree at the start of a run settles how the run goes:
after some files its tree, its writes, what has been told and its summary are those that
`Run.Ledger` reads off the first tree, in a dry run as in any other. A step that comes to a file
takes the ledger on by that file, or the run ends there.
-/
namespace ImportAlias

namespace Listener
variable {σ : Type}

/-- The listener leaves the tree alone. -/
def Passive (l : Listener σ) : Prop := ∀ a e t, (l.hear a e t).2.edits = []

/-- The listener's state after some calls. -/
def after (l : Listener σ) (a : σ) (calls : List (Event × Tree)) : σ :=
  calls.foldl (fun a call => (l.hear a call.1 call.2).1) a

/-- Why each of the calls fails, if it does. -/
def failures (l : Listener σ) : σ → List (Event × Tree) → List (Option Text)
  | _, [] => []
  | a, (e, t) :: rest => (l.hear a e t).2.failure? :: l.failures (l.hear a e t).1 rest

theorem failures_append (l : Listener σ) (a : σ) (calls more : List (Event × Tree)) :
    l.failures a (calls ++ more) = l.failures a calls ++ l.failures (l.after a calls) more := by
  induction calls generalizing a with
  | nil => rfl
  | cons call calls ih => exact congrArg (_ :: ·) (ih _)

end Listener

namespace Run

section Reporters
variable {cwd : Path} {r : Reporter} {e : Event} {t : Tree}

theorem passive_reporting (cwd : Path) : (reporting cwd).Passive := by
  intro r e t
  rw [reporting]
  dsimp only
  split <;> rfl

/-- A reporter only fails at the end, and then because the summary cannot be written as JSON. -/
theorem failure?_reporting :
    ((reporting cwd).hear r e t).2.failure? = none ↔
      (r = .json → ∀ summary, e = .finish summary → ∃ json, summary.toJson? = some json) := by
  rw [reporting]
  dsimp only
  cases r with
  | silent => simp [Reporter.step]
  | console c => simp [Reporter.step]
  | json =>
    cases e with
    | start s => simp [Reporter.step, Json.report]
    | change c => simp [Reporter.step, Json.report]
    | finish summary =>
      cases hjson : summary.toJson? with
      | none => simp [Reporter.step, Json.report, hjson]
      | some json => simp [Reporter.step, Json.report, hjson]

theorem hear_eq_json_iff : ((reporting cwd).hear r e t).1 = .json ↔ r = .json := by
  cases r with
  | silent => simp [reporting, Reporter.step]
  | console c => simp [reporting, Reporter.step]
  | json =>
    rw [reporting]
    dsimp only [Reporter.step]
    cases Json.report e <;> simp

/-- Reporters for people do not stop a run. -/
theorem result?_reporting_ne_output (hr : r ≠ .json) (s : Settings) (t : Tree) (budget : Nat)
    (reason : Text) :
    (heard budget (reporting cwd) r s t).result? ≠ some (.error (.output reason)) := by
  refine result?_heard_ne_output (Q := (· ≠ .json)) ?_ ?_ hr s t budget reason
  · intro r e t hr
    exact fun hjson => hr (hear_eq_json_iff.1 hjson)
  · intro r e t hr
    exact failure?_reporting.2 fun heq => absurd heq hr

end Reporters

/-- What a run has done to the tree when it has come through some files. -/
def treeAfter (s : Settings) (t : Tree) (done : List Path) : Tree :=
  if s.dryRun then t else applyAll t (dues s t done)

/-- The calls that tell of changes, each with the tree after its write. A dry run makes none. -/
def callsFor (s : Settings) : Tree → List Due → List (Event × Tree)
  | _, [] => []
  | t, d :: ds =>
    let after := if s.dryRun then t else d.apply t
    (.change d.change, after) :: callsFor s after ds

/-- The calls of a run that has come to its start and done what is due. -/
def calls (s : Settings) (t : Tree) (ds : List Due) : List (Event × Tree) :=
  (.start s, t) :: callsFor s t ds

/-- What a run has counted when it has come through some files. -/
def tally (s : Settings) (t : Tree) (done : List Path) : Summary :=
  let changes := (dues s t done).map Due.change
  { Summary.start s with
    filesScanned := done.length
    filesChanged := changes.length
    importsChanged := changes.foldl (fun n c => n + c.count) 0
    changes }

section Listening
variable {σ : Type} (l : Listener σ) (a : σ) (s : Settings) (t : Tree)

/-- The listener has taken the calls that are due for some files. -/
def Taken (paths : List Path) : Prop :=
  ∀ failure? ∈ l.failures a (calls s t (dues s t paths)), failure? = none

/-- What the listener answers to the change of a file, after the changes of others. -/
def answer? (done : List Path) (p : Path) : Option Text :=
  (due? s t p).bind fun d =>
    let before := treeAfter s t done
    let heard := l.after a (calls s t (dues s t done))
    (l.hear heard (.change d.change) (if s.dryRun then before else d.apply before)).2.failure?

/-- The run has done what is due to some files, and told of it. -/
structure Treated (done : List Path) (st : State σ) : Prop where
  tree : st.tree = treeAfter s t done
  writes : st.writes = if s.dryRun then [] else (dues s t done).map Due.write
  events : st.events = .start s :: (dues s t done).map fun d => .change d.change
  listener : st.listener = l.after a (calls s t (dues s t done))

/-- The run has come through some files: it has treated them, the listener has taken all that it was
told, and they have been counted. -/
structure Ledger (done : List Path) (st : State σ) : Prop extends Treated l a s t done st where
  taken : Taken l a s t done
  summary : st.summary = tally s t done

end Listening

section Trees
variable {s : Settings} {t : Tree} {done : List Path} {p : Path}

theorem shape_treeAfter (h : t.Listed done) : (treeAfter s t done).shape = t.shape := by
  rw [treeAfter]
  split
  · rfl
  · exact shape_applyAll (placed_dues h)

/-- A path that is still to come leads where it led. -/
theorem locate_treeAfter (h : t.Listed (done ++ [p])) :
    (treeAfter s t done).locate .use p = t.locate .use p := by
  have hshape := shape_treeAfter (s := s) (h.sublist (List.sublist_append_left done [p]))
  have hsame := Tree.locate_eq_of_shape_eq hshape .use p
  cases hlocate : t.locate .use p with
  | error fault =>
    rw [hlocate] at hsame
    cases hnow : (treeAfter s t done).locate .use p with
    | error fault' =>
      rw [hnow] at hsame
      cases hsame
      rfl
    | ok spot =>
      rw [hnow] at hsame
      cases hsame
  | ok spot =>
    cases spot with
    | taken place node =>
      have hplace : t.placeOf? p = some place := by rw [Tree.placeOf?, hlocate]
      obtain ⟨content, hfile⟩ := locate_applyAll (s := s) h hplace
      rw [(hfile .use).1] at hlocate
      rw [treeAfter, ← hlocate]
      split
      · exact (hfile .use).1
      · exact (hfile .use).2
    | free place =>
      rw [hlocate] at hsame
      cases hnow : (treeAfter s t done).locate .use p with
      | error fault =>
        rw [hnow] at hsame
        cases hsame
      | ok spot' =>
        rw [hnow] at hsame
        cases spot' with
        | taken place' node' => cases hsame
        | free place' =>
          cases hsame
          rfl

end Trees

section Counts
variable {s : Settings} {t : Tree} {done : List Path} {p : Path}

theorem treeAfter_concat_of_some {d : Due} (h : due? s t p = some d) :
    treeAfter s t (done ++ [p]) =
      if s.dryRun then treeAfter s t done else d.apply (treeAfter s t done) := by
  rw [treeAfter, treeAfter, dues_concat_of_some h, applyAll, applyAll, List.foldl_append]
  split <;> rfl

theorem tally_concat_of_none (h : due? s t p = none) :
    tally s t (done ++ [p]) = (tally s t done).scanned := by
  rw [tally, dues_concat_of_none h, List.length_append]
  rfl

theorem tally_concat_of_some {d : Due} (h : due? s t p = some d) :
    tally s t (done ++ [p]) = (tally s t done).scanned.record d.change := by
  simp [tally, dues_concat_of_some h, Summary.scanned, Summary.record]

end Counts

section Calls
variable {σ : Type} {l : Listener σ} {a : σ} {s : Settings} {t : Tree} {done : List Path}
  {p : Path}

theorem callsFor_append (s : Settings) (t : Tree) (ds more : List Due) :
    callsFor s t (ds ++ more) =
      callsFor s t ds ++ callsFor s (if s.dryRun then t else applyAll t ds) more := by
  induction ds generalizing t with
  | nil => simp [callsFor, applyAll]
  | cons d ds ih =>
    rw [List.cons_append, callsFor, callsFor, ih]
    cases s.dryRun <;> rfl

/-- The calls go on by those that tell of the next files. -/
theorem calls_append (s : Settings) (t : Tree) (done more : List Path) :
    calls s t (dues s t (done ++ more)) = calls s t (dues s t done) ++
      callsFor s (treeAfter s t done) (dues s t more) := by
  rw [dues, List.filterMap_append, calls, callsFor_append]
  rfl

theorem calls_concat (s : Settings) (t : Tree) (done : List Path) (p : Path) :
    calls s t (dues s t (done ++ [p])) = calls s t (dues s t done) ++
      callsFor s (treeAfter s t done) (due? s t p).toList := by
  rw [calls_append, ← List.nil_append [p], dues_concat]
  rfl

theorem failures_concat (l : Listener σ) (a : σ) (s : Settings) (t : Tree) (done : List Path)
    (p : Path) :
    l.failures a (calls s t (dues s t (done ++ [p]))) =
      l.failures a (calls s t (dues s t done)) ++
        ((due? s t p).map fun _ => answer? l a s t done p).toList := by
  rw [calls_concat, Listener.failures_append, answer?]
  cases due? s t p <;> rfl

theorem Taken.concat (h : Taken l a s t done) (hanswer : answer? l a s t done p = none) :
    Taken l a s t (done ++ [p]) := by
  rw [Taken, failures_concat, hanswer]
  intro f hf
  rcases List.mem_append.1 hf with hf | hf
  · exact h f hf
  · obtain ⟨d, -, rfl⟩ := Option.map_eq_some_iff.1 (Option.mem_toList.1 hf)
    rfl

/-- Where the calls for all files were taken, the call for each of them was. -/
theorem Taken.answer?_eq_none {more : List Path} (h : Taken l a s t (done ++ p :: more)) :
    answer? l a s t done p = none := by
  have hsplit : done ++ p :: more = (done ++ [p]) ++ more := by simp
  rw [Taken, hsplit, calls_append, Listener.failures_append, failures_concat] at h
  cases hdue : due? s t p with
  | none => rw [answer?, hdue, Option.bind_none]
  | some d => exact h _ (by simp [hdue])

theorem answer?_ne_some {reason : Text}
    (htakes : ∀ a e t, (∀ summary, e ≠ .finish summary) → (l.hear a e t).2.failure? = none) :
    answer? l a s t done p ≠ some reason := by
  intro hanswer
  obtain ⟨d, -, hfails⟩ := Option.bind_eq_some_iff.1 hanswer
  rw [htakes _ _ _ (fun summary heq => by cases heq)] at hfails
  cases hfails

end Calls

section Steps
variable {σ : Type} {l : Listener σ} {a : σ} {s : Settings} {t : Tree} {done : List Path}
  {p : Path} {st st' : State σ} {rest : List Walk.Item} {d : Due}

theorem tree_told (hpassive : l.Passive) (w : World σ) (e : Event) :
    (w.told l e).tree = w.tree := by
  rw [World.told, hpassive]
  rfl

/-- What is due to one file more has been done, and told of. -/
theorem Treated.told (h : Treated l a s t done st) (hpassive : l.Passive)
    (hdue : due? s t p = some d)
    (hworld : st'.world = (stored s st.world d).told l (.change d.change)) :
    Treated l a s t (done ++ [p]) st' := by
  have htree : st'.tree = (stored s st.world d).tree :=
    (congrArg World.tree hworld).trans (tree_told hpassive _ _)
  have hwrites : st'.writes = (stored s st.world d).writes := congrArg World.writes hworld
  have hevents : st'.events = (stored s st.world d).events ++ [.change d.change] :=
    congrArg World.events hworld
  have hlistener : st'.listener = (l.hear (stored s st.world d).listener (.change d.change)
      (stored s st.world d).tree).1 := congrArg World.listener hworld
  have hdues := dues_concat_of_some hdue done
  rw [tree_stored] at htree hlistener
  rw [writes_stored] at hwrites
  rw [events_stored] at hevents
  rw [listener_stored] at hlistener
  constructor
  · rw [htree, treeAfter_concat_of_some hdue, ← h.tree]
    rfl
  · have hwritten : st.world.writes = _ := h.writes
    rw [hwrites, hdues, hwritten, List.map_append]
    split <;> rfl
  · have htold : st.world.events = _ := h.events
    rw [hevents, hdues, htold, List.map_append]
    rfl
  · have hheard : st.world.listener = _ := h.listener
    have hfound : st.world.tree = _ := h.tree
    rw [hlistener, hheard, hfound, calls_concat, hdue, Listener.after, Listener.after,
      List.foldl_append]
    rfl

theorem Treated.of_world_eq (h : Treated l a s t done st) (hworld : st'.world = st.world) :
    Treated l a s t done st' := by
  constructor
  · rw [← h.tree]
    exact congrArg World.tree hworld
  · rw [← h.writes]
    exact congrArg World.writes hworld
  · rw [← h.events]
    exact congrArg World.events hworld
  · rw [← h.listener]
    exact congrArg World.listener hworld

/-- Nothing is due to one file more. -/
theorem Treated.concat_of_none (h : Treated l a s t done st) (hdue : due? s t p = none) :
    Treated l a s t (done ++ [p]) st := by
  have hdues := dues_concat_of_none hdue done
  constructor
  · rw [h.tree, treeAfter, treeAfter, hdues]
  · rw [h.writes, hdues]
  · rw [h.events, hdues]
  · rw [h.listener, hdues]

theorem Ledger.of_world_eq (h : Ledger l a s t done st) (hworld : st'.world = st.world)
    (hsummary : st'.summary = st.summary) : Ledger l a s t done st' :=
  ⟨h.toTreated.of_world_eq hworld, h.taken, hsummary.trans h.summary⟩

theorem Ledger.shape (h : Ledger l a s t done st) (hlisted : t.Listed done) :
    st.tree.shape = t.shape := by
  rw [h.tree]
  exact shape_treeAfter hlisted

/-- The listener answers as it does to the calls that are due. -/
theorem Treated.answer?_eq (h : Treated l a s t done st) (hdue : due? s t p = some d) :
    (stored s st.world d).answer? l (.change d.change) = answer? l a s t done p := by
  have hheard : st.world.listener = _ := h.listener
  have hfound : st.world.tree = _ := h.tree
  rw [World.answer?, listener_stored, tree_stored, hheard, hfound, answer?, hdue,
    Option.bind_some]

theorem Ledger.concat_of_none (h : Ledger l a s t done st) (hdue : due? s t p = none)
    (hworld : st'.world = st.world) (hsummary : st'.summary = st.summary.scanned) :
    Ledger l a s t (done ++ [p]) st' := by
  refine ⟨(h.toTreated.concat_of_none hdue).of_world_eq hworld, h.taken.concat ?_, ?_⟩
  · rw [answer?, hdue, Option.bind_none]
  · rw [hsummary, h.summary, tally_concat_of_none hdue]

theorem Ledger.concat_of_some (h : Ledger l a s t done st) (hpassive : l.Passive)
    (hdue : due? s t p = some d) (hanswer : answer? l a s t done p = none)
    (hworld : st'.world = (stored s st.world d).told l (.change d.change))
    (hsummary : st'.summary = st.summary.scanned.record d.change) :
    Ledger l a s t (done ++ [p]) st' := by
  refine ⟨h.toTreated.told hpassive hdue hworld, h.taken.concat hanswer, ?_⟩
  rw [hsummary, h.summary, tally_concat_of_some hdue]

/-- A file that has its turn ends the run, because it cannot be read or because the listener fails,
or the run has come through it. -/
theorem Ledger.step_file (h : Ledger l a s t done st) (hpassive : l.Passive)
    (hlisted : t.Listed (done ++ [p])) (hpending : st.pending = .file p :: rest) :
    let out := step l s st
    (∃ e, Document.load t s.root p = .error e ∧ Ledger l a s t done out.state ∧
        out.result? = some (.error e)) ∨
      (∃ reason, answer? l a s t done p = some reason ∧
        Treated l a s t (done ++ [p]) out.state ∧ out.result? = some (.error (.output reason))) ∨
      IsText t p ∧ Ledger l a s t (done ++ [p]) out.state ∧ out.state.pending = rest ∧
        out.result? = none := by
  intro out
  have hlocate : st.tree.locate .use p = t.locate .use p := by
    rw [h.tree]
    exact locate_treeAfter hlisted
  have hdue : due? s st.world.tree p = due? s t p := due?_eq_of_locate_eq hlocate
  have hread : st.world.tree.readFile p = t.readFile p := Tree.readFile_eq_of_locate_eq hlocate
  obtain ⟨f, failure?, hvisit, hrest, -, hsummary, hresult⟩ :=
    Run.step_file (l := l) (s := s) hpending
  generalize hworld : (step l s st).state.world = w at hvisit
  cases hvisit with
  | @unreadable e hload =>
    refine Or.inl ⟨e, ?_, h.of_world_eq hworld hsummary, hresult⟩
    rw [Document.load, ← hread]
    exact hload
  | kept htext hnone =>
    obtain ⟨bytes, text, hbytes, hdecode⟩ := htext
    rw [hdue] at hnone
    rw [hread] at hbytes
    exact Or.inr (Or.inr ⟨⟨bytes, text, hbytes, hdecode⟩, h.concat_of_none hnone hworld hsummary,
      hrest, hresult⟩)
  | @refused d reason hsome hanswer =>
    rw [hdue] at hsome
    rw [h.answer?_eq hsome] at hanswer
    exact Or.inr (Or.inl ⟨reason, hanswer, h.toTreated.told hpassive hsome hworld, hresult⟩)
  | changed hsome hanswer =>
    rw [hdue] at hsome
    rw [h.answer?_eq hsome] at hanswer
    exact Or.inr (Or.inr ⟨isText_of_due? hsome,
      h.concat_of_some hpassive hsome hanswer hworld hsummary, hrest, hresult⟩)

/-- With nothing left the run ends well, unless the listener fails. -/
theorem Ledger.step_finish (h : Ledger l a s t done st) (hpassive : l.Passive)
    (hpending : st.pending = []) :
    let out := step l s st
    out.state.tree = treeAfter s t done ∧ out.state.writes = st.writes ∧
      out.state.events = st.events ++ [.finish (tally s t done)] ∧
      out.result? = some (match st.world.answer? l (.finish (tally s t done)) with
        | some reason => .error (.output reason)
        | none => .ok (tally s t done)) := by
  obtain ⟨hworld, -, -, hresult⟩ := Run.step_finish (l := l) (s := s) hpending
  rw [h.summary] at hworld hresult
  have htree := (congrArg World.tree hworld).trans (tree_told hpassive _ _)
  exact ⟨htree.trans h.tree, congrArg World.writes hworld, congrArg World.events hworld, hresult⟩

theorem ledger_start (hpassive : l.Passive) (hstart : (l.hear a (.start s) t).2.failure? = none) :
    Ledger l a s t [] (call l (initial s a t) (.start s)).1 := by
  obtain ⟨hworld, -, -, hsummary, -⟩ := call_told l (initial s a t) (.start s)
  have htree := (congrArg World.tree hworld).trans (tree_told hpassive _ _)
  refine ⟨⟨?_, ?_, congrArg World.events hworld, congrArg World.listener hworld⟩, ?_, hsummary⟩
  · rw [treeAfter]
    split
    · exact htree
    · exact htree
  · have hwrites : (call l (initial s a t) (.start s)).1.writes = [] :=
      congrArg World.writes hworld
    rw [hwrites]
    split <;> rfl
  · exact List.forall_mem_singleton.2 hstart

end Steps

end Run

end ImportAlias
